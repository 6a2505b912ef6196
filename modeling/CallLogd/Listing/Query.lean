/-
The listing of call logs: the reads of `CallLogDAO` and `CDRService.list`.

A query is the list of its rows, so that a join may return a call log several times.
What PostgreSQL does with texts, in `ILIKE` and in `ORDER BY`, is a parameter.
-/
import Mathlib.Data.Prod.Lex
import CallLogd.Lib.Like
import CallLogd.Lib.Regex
import CallLogd.Lib.Results
import CallLogd.Lib.Sequences
import CallLogd.Database.Queries

namespace CallLogd

open Sequences

/-! ### Participants -/

/-- The columns of a participant that are not null: `answered` is false by default. -/
def CallLogParticipant.hasAnswered (p : CallLogParticipant) : Bool := p.answered.getD false

/-- `CallLogParticipant.peer_exten`. -/
def CallLogParticipant.peerExten (log : CallLog) (p : CallLogParticipant) : Option String :=
  match p.role with
  | .source => log.requestedExten
  | .destination => log.sourceExten

/-- `desc(answered), desc(user_uuid)`. -/
def CallLogParticipant.answeredFirst (p : CallLogParticipant) : Lex (Boolᵒᵈ × Stringᵒᵈ) :=
  toLex (OrderDual.toDual p.hasAnswered, OrderDual.toDual p.userUuid)

namespace CallLog

variable (log : CallLog)

/-- `CallLog.source_participant`: the first row, in the order of the table. -/
def sourceParticipant : Option CallLogParticipant :=
  log.participants.find? fun p => p.role = .source

/-- `CallLog.destination_participant`: those who answered come first, then the greater
user. -/
def destinationParticipant : Option CallLogParticipant :=
  (sortedBy CallLogParticipant.answeredFirst
    (log.participants.filter fun p => p.role = .destination)).head?

/-- `CallLog.source_user_uuid`. -/
def sourceUserUuid : Option String := log.sourceParticipant.map (·.userUuid)

/-- `CallLog.destination_user_uuid`. -/
def destinationUserUuid : Option String := log.destinationParticipant.map (·.userUuid)

end CallLog

/-! ### Statuses -/

/-- `CallStatus`. -/
inductive CallStatus where
  | answered
  | blocked
  | voicemail
  | unknown
deriving DecidableEq, Repr

/-- A value of the parameter `call_status`: a status, or `DEFAULT_CALL_STATUS`. -/
inductive StatusFilter where
  | status (status : CallStatus)
  | default
deriving DecidableEq, Repr

namespace CallLog

variable (log : CallLog)

/-- `_not_blocked`. -/
def notBlocked : Bool := !log.blocked

/-- `_status_blocked`. -/
def statusBlocked : Bool := log.blocked

/-- `_status_answered`. -/
def statusAnswered : Bool := log.dateAnswer.isSome && log.notBlocked

/-- `_status_voicemail`. -/
def statusVoicemail : Bool := log.reachedVoicemail && log.dateAnswer.isNone && log.notBlocked

/-- `_status_unknown`. -/
def statusUnknown : Bool := log.dateAnswer.isNone && !log.reachedVoicemail && log.notBlocked

end CallLog

/-- The call logs that a value of `call_status` selects. -/
def StatusFilter.selects (log : CallLog) : StatusFilter → Bool
  | .status .answered => log.statusAnswered
  | .status .blocked => log.statusBlocked
  | .status .voicemail => log.statusVoicemail
  | .status .unknown => log.statusUnknown
  | .default => log.notBlocked

/-! ### Sorting -/

/-- What PostgreSQL does with texts: the folding of `ILIKE`, and the collation. -/
structure TextRules where
  fold : Char → Char
  le : String → String → Bool
  le_total : ∀ s t, le s t || le t s
  le_trans : ∀ s t u, le s t → le t u → le s u

/-- The rules of the C locale. -/
def TextRules.ascii : TextRules where
  fold := Char.toLower
  le s t := decide (s ≤ t)
  le_total s t := by simpa using String.le_total s t
  le_trans s t u h h' := by simpa using String.le_trans (of_decide_eq_true h) (of_decide_eq_true h')

/-- What the call logs can be sorted by. -/
inductive OrderField where
  | id
  | tenantUuid
  | date
  | dateAnswer
  | dateEnd
  | marshmallowDuration
  | marshmallowAnswered
  | marshmallowCallStatus
  | direction
  | conversationId
  | destinationExten
  | destinationInternalContext
  | destinationInternalExten
  | destinationName
  | requestedName
  | requestedContext
  | requestedExten
  | requestedInternalContext
  | requestedInternalExten
  | sourceExten
  | sourceInternalContext
  | sourceInternalName
  | sourceInternalExten
  | sourceName
  /-- The first participant who was requested. -/
  | requestedUserUuid
  /-- An association proxy or a property, by which the database cannot sort. -/
  | proxy (name : String)
deriving DecidableEq, Repr

/-- A value to sort by: null, a number or a text. -/
abbrev SortValue := Option (ℤ ⊕ String)

/-- A column of texts. -/
def textValue (text : Option String) : SortValue := text.map .inr

/-- A column of times. -/
def timeValue (time : Option DateTime) : SortValue := time.map .inl

/-- The text of a destination's name. -/
def CallLog.destinationNameText (log : CallLog) : Option String :=
  match log.destinationName with
  | .str text => some text
  | _ => none

/-- The stored texts of the directions. -/
def Direction.text : Direction → String
  | .internal => "internal"
  | .inbound => "inbound"
  | .outbound => "outbound"

/-- The rank of a status. -/
def CallLog.statusRank (log : CallLog) : ℤ :=
  if log.statusBlocked then 2
  else if log.statusVoicemail then 3
  else if log.statusAnswered then 4
  else 1

/-- The value of a call log in a column. -/
def OrderField.value (stored : StoredCallLog) : OrderField → SortValue
  | id => some (.inl stored.id)
  | tenantUuid => textValue stored.log.tenantUuid
  | date => timeValue stored.log.date
  | dateAnswer => timeValue stored.log.dateAnswer
  | dateEnd => timeValue stored.log.dateEnd
  | marshmallowDuration =>
      timeValue (do return (← stored.log.dateEnd) - (← stored.log.dateAnswer))
  | marshmallowAnswered => timeValue stored.log.dateAnswer
  | marshmallowCallStatus => some (.inl stored.log.statusRank)
  | direction => textValue (some stored.log.direction.text)
  | conversationId => textValue stored.log.conversationId
  | destinationExten => textValue stored.log.destinationExten
  | destinationInternalContext => textValue stored.log.destinationInternalContext
  | destinationInternalExten => textValue stored.log.destinationInternalExten
  | destinationName => textValue stored.log.destinationNameText
  | requestedName => textValue stored.log.requestedName
  | requestedContext => textValue stored.log.requestedContext
  | requestedExten => textValue stored.log.requestedExten
  | requestedInternalContext => textValue stored.log.requestedInternalContext
  | requestedInternalExten => textValue stored.log.requestedInternalExten
  | sourceExten => textValue stored.log.sourceExten
  | sourceInternalContext => textValue stored.log.sourceInternalContext
  | sourceInternalName => textValue stored.log.sourceInternalName
  | sourceInternalExten => textValue stored.log.sourceInternalExten
  | sourceName => textValue stored.log.sourceName
  | requestedUserUuid =>
      textValue ((stored.log.participants.find? fun p => p.requested = some true).map (·.userUuid))
  | proxy _ => none

/-- The query fails: it cannot be sorted so, or the sub-query of `requested_user_uuid`
returns several rows. -/
def OrderField.fails (rows : List StoredCallLog) : OrderField → Bool
  | requestedUserUuid => rows.any fun stored =>
      decide (1 < (stored.log.participants.filter fun p => p.requested = some true).length)
  | proxy _ => true
  | _ => false

namespace TextRules

variable (rules : TextRules)

/-- The order of the values that are not null. -/
def leValue : ℤ ⊕ String → ℤ ⊕ String → Bool
  | .inl a, .inl b => a ≤ b
  | .inl _, .inr _ => true
  | .inr _, .inl _ => false
  | .inr s, .inr t => rules.le s t

/-- Increasing values, null first. -/
def leNullsFirst : SortValue → SortValue → Bool
  | none, _ => true
  | some _, none => false
  | some a, some b => rules.leValue a b

/-- Increasing values, null last. -/
def leNullsLast : SortValue → SortValue → Bool
  | _, none => true
  | none, some _ => false
  | some a, some b => rules.leValue a b

end TextRules

/-- `OrderDirection`. -/
inductive OrderDirection where
  | asc
  | desc
deriving DecidableEq, Repr

/-- `asc().nullsfirst()`, `desc().nullslast()`, or the order of the database. -/
def OrderDirection.le (rules : TextRules) :
    Option OrderDirection → SortValue → SortValue → Bool
  | some .asc, a, b => rules.leNullsFirst a b
  | some .desc, a, b => rules.leNullsFirst b a
  | none, a, b => rules.leNullsLast a b

/-- How a listing fails: the code sorts by nothing, or the database refuses the query. -/
inductive ListError where
  | attributeError
  | databaseError
deriving DecidableEq, Repr

/-! ### Parameters -/

/-- `ListParams`, `SearchParams`: a key that is absent, or `None`, is `none`.  The keys
that are lists are empty if they are absent, except for `tenant_uuids`. -/
structure ListParams where
  search : Option String := none
  order : Option OrderField := none
  direction : Option OrderDirection := none
  limit : Option ℕ := none
  offset : Option ℕ := none
  /-- The value is `peer_exten`. -/
  distinctPeer : Bool := false
  startDate : Option DateTime := none
  endDate : Option DateTime := none
  callDirection : Option Direction := none
  callStatus : Option StatusFilter := none
  cdrIds : List ℤ := []
  /-- The identifier, which is read from a text. -/
  id : Option ℕ := none
  startId : Option ℤ := none
  number : Option String := none
  tags : List String := []
  tenantUuids : Option (List String) := none
  meUserUuid : Option String := none
  userUuids : List String := []
  terminalUserUuids : List String := []
  recorded : Option Bool := none
  conversationId : Option String := none
  requestedInternalExten : Option String := none
  requestedInternalContext : Option String := none

/-- The truth value of an optional text: the empty text counts as none. -/
def givenText (text : Option String) : Option String := text.filter (· ≠ "")

/-- `CallLog.participants.any(...)`. -/
def CallLog.anyParticipant (log : CallLog) (p : CallLogParticipant → Bool) : Bool :=
  log.participants.any p

/-- The texts of `searched_columns`. -/
def CallLog.searchedColumns (log : CallLog) : List (Option String) :=
  [log.sourceName, log.sourceExten, log.destinationNameText, log.destinationExten]

namespace CallLogDAO

variable (rules : TextRules) (params : ListParams)

/-- The rows that `search` selects. -/
def matchesSearch (log : CallLog) (search : String) : Bool :=
  log.searchedColumns.any (·.any (Like.like rules.fold ("%" ++ search ++ "%")))

/-- The rows that `number` selects: a `_` stands for any text. -/
def matchesNumber (log : CallLog) (number : String) : Bool :=
  let pattern := String.ofList (number.toList.map fun c => if c = '_' then '%' else c)
  [log.sourceExten, log.destinationExten].any (·.any (Like.like id pattern))

/-- The rows that `terminal_user_uuids` selects: some source participant is one of the
users, or the first destination participant is. -/
def matchesTerminalUsers (log : CallLog) (userUuids : List String) : Bool :=
  (log.anyParticipant fun p => p.role = .source ∧ p.userUuid ∈ userUuids) ||
    (((sortedBy CallLogParticipant.answeredFirst
      (log.participants.filter fun p => p.role = .destination)).head?.map (·.userUuid)).any
        (· ∈ userUuids))

/-- `_apply_user_filter`. -/
def userFilter (stored : StoredCallLog) : Bool :=
  (givenText params.meUserUuid).all fun userUuid =>
    stored.log.anyParticipant fun p => p.userUuid = userUuid

/-- `_apply_filters`. -/
def filters (stored : StoredCallLog) : Bool :=
  let log := stored.log
  (params.startDate.all fun start => log.date.any (start ≤ ·)) &&
  (params.endDate.all fun stop => log.date.any (· < stop)) &&
  (params.callDirection.all fun direction => log.direction = direction) &&
  (params.cdrIds = [] || (stored.id : ℤ) ∈ params.cdrIds) &&
  (params.id.all fun id => stored.id = id) &&
  ((givenText params.search).all (matchesSearch rules log)) &&
  ((givenText params.number).all (matchesNumber log)) &&
  (params.tags.all fun tag => log.anyParticipant fun p => tag ∈ p.tags) &&
  ((params.tenantUuids.filter (· ≠ [])).all fun tenantUuids =>
    log.tenantUuid.any (· ∈ tenantUuids)) &&
  ((givenText params.meUserUuid).all fun userUuid =>
    log.anyParticipant fun p => p.userUuid = userUuid) &&
  (params.userUuids = [] || params.userUuids.any fun userUuid =>
    log.anyParticipant fun p => p.userUuid = userUuid) &&
  (params.terminalUserUuids = [] || matchesTerminalUsers log params.terminalUserUuids) &&
  (params.startId.all fun startId => startId = 0 ∨ startId ≤ (stored.id : ℤ)) &&
  (params.recorded.all fun recorded => (!log.recordings.isEmpty) == recorded) &&
  ((givenText params.conversationId).all fun id => log.conversationId = some id) &&
  (params.callStatus.all (·.selects log))

/-! ### The distinct peers -/

/-- The participants of the table, with their call logs. -/
def participantRows (db : Database) : List (StoredCallLog × CallLogParticipant) :=
  db.callLogs.flatMap fun stored => stored.log.participants.map fun p => (stored, p)

/-- The columns by which the sub-query groups the participants. -/
def peerKey (row : StoredCallLog × CallLogParticipant) : String × Option String :=
  (row.2.userUuid, row.2.peerExten row.1.log)

/-- The sub-query: the greatest call log of each user and peer. -/
def maxIds (db : Database) : List ℕ :=
  ((participantRows db).map peerKey).dedup.filterMap fun key =>
    (((participantRows db).filter fun row => peerKey row = key).map fun row => row.1.id).max?

/-- The rows that the filters are applied to: all the call logs, or those that the
sub-query returns, each as often as it does. -/
def baseRows (db : Database) : List StoredCallLog :=
  if params.distinctPeer then
    db.callLogs.flatMap fun stored => List.replicate ((maxIds db).count stored.id) stored
  else db.callLogs

/-- `_list_query`. -/
def listQuery (db : Database) : List StoredCallLog :=
  (baseRows params db).filter fun stored =>
    ((givenText params.requestedInternalExten).all fun exten =>
      stored.log.requestedInternalExten = some exten) &&
    ((givenText params.requestedInternalContext).all fun context =>
      stored.log.requestedInternalContext = some context) &&
    userFilter params stored && filters rules params stored

/-! ### Reads -/

/-- `get_by_id`. -/
def getById (cdrId : ℕ) (tenantUuids : Option (List String)) (userUuids : List String)
    (db : Database) : Option StoredCallLog :=
  db.callLogs.find? fun stored =>
    filters rules { tenantUuids := tenantUuids, userUuids := userUuids } stored &&
      stored.id = cdrId

/-- The rows in the order of the parameters. -/
def orderedRows (db : Database) : Except ListError (List StoredCallLog) :=
  match params.order, params.direction with
  | none, some _ => .error .attributeError
  | none, none => .ok (listQuery rules params db)
  | some field, direction =>
      if field.fails (listQuery rules params db) then .error .databaseError
      else
        .ok ((listQuery rules params db).mergeSort fun a b =>
          OrderDirection.le rules direction (field.value a) (field.value b))

/-- `find_all_in_period`: the limit and the offset count rows, of which the session
returns each call log once. -/
def findAllInPeriod (db : Database) : Except ListError (List StoredCallLog) := do
  let rows ← orderedRows rules params db
  let rows := rows.drop (params.offset.getD 0)
  let rows := match params.limit with
    | some (n + 1) => rows.take (n + 1)
    | _ => rows
  return uniqueBy (·.id) rows

/-- The query of the total. -/
def totalQuery (db : Database) : List StoredCallLog :=
  db.callLogs.filter fun stored =>
    userFilter params stored &&
      filters rules { tenantUuids := params.tenantUuids, meUserUuid := params.meUserUuid } stored

/-- `params.setdefault('call_status', DEFAULT_CALL_STATUS)`. -/
def setDefaultCallStatus : ListParams :=
  { params with callStatus := params.callStatus.or (some .default) }

/-- The query of which `filtered` counts the distinct identifiers. -/
def filteredQuery (db : Database) : List StoredCallLog :=
  listQuery rules (setDefaultCallStatus params) db

/-- The result of `count_in_period`. -/
structure Count where
  total : ℕ
  filtered : ℕ
deriving DecidableEq, Repr

/-- `count_in_period`; the parameters get their default status, which the caller
sees. -/
def countInPeriod (db : Database) : Count × ListParams :=
  (⟨(totalQuery rules params db).length,
      ((filteredQuery rules params db).map (·.id)).dedup.length⟩,
    setDefaultCallStatus params)

/-! ### The rows that are read -/

variable {rules params} {db : Database} {rows : List StoredCallLog} {stored : StoredCallLog}

lemma mem_baseRows : stored ∈ baseRows params db ↔
    stored ∈ db.callLogs ∧ (params.distinctPeer → stored.id ∈ maxIds db) := by
  rw [baseRows]
  split
  · next h =>
      simp only [h, forall_const, List.mem_flatMap, List.mem_replicate, ne_eq,
        List.count_eq_zero, not_not]
      constructor
      · rintro ⟨_, hmem, hid, rfl⟩
        exact ⟨hmem, hid⟩
      · exact fun ⟨hmem, hid⟩ => ⟨stored, hmem, hid, rfl⟩
  · next h => simp [h]

lemma mem_callLogs_of_mem_listQuery (h : stored ∈ listQuery rules params db) :
    stored ∈ db.callLogs :=
  (mem_baseRows.1 (List.mem_of_mem_filter h)).1

/-- The sort keeps the rows. -/
lemma orderedRows_perm (h : orderedRows rules params db = .ok rows) :
    rows.Perm (listQuery rules params db) := by
  rw [orderedRows] at h
  split at h
  · cases h
  · exact Except.ok.inj h ▸ .refl _
  · split at h
    · cases h
    · exact Except.ok.inj h ▸ List.mergeSort_perm _ _

lemma findAllInPeriod_eq_ok (h : findAllInPeriod rules params db = .ok rows) :
    ∃ ordered, orderedRows rules params db = .ok ordered ∧
      ∃ window, window.Sublist ordered ∧ rows = uniqueBy (·.id) window := by
  obtain ⟨ordered, hordered, hrows⟩ := Results.exists_of_bind_eq_ok h
  refine ⟨ordered, hordered, _, ?_, (Except.ok.inj hrows).symm⟩
  split
  · exact (List.take_sublist _ _).trans (List.drop_sublist _ _)
  · exact List.drop_sublist _ _

/-- No call log is returned twice. -/
lemma nodup_findAllInPeriod (h : findAllInPeriod rules params db = .ok rows) :
    (rows.map (·.id)).Nodup := by
  obtain ⟨ordered, -, window, -, rfl⟩ := findAllInPeriod_eq_ok h
  exact nodup_map_uniqueBy _ _

/-- Without a limit and an offset, exactly the call logs of the query are returned. -/
lemma mem_findAllInPeriod_iff (h : findAllInPeriod rules params db = .ok rows)
    (hlimit : params.limit = none) (hoffset : params.offset = none) :
    stored ∈ rows ↔ stored ∈ listQuery rules params db := by
  obtain ⟨ordered, hordered, hrows⟩ := Results.exists_of_bind_eq_ok h
  rw [hlimit, hoffset] at hrows
  obtain rfl : uniqueBy (·.id) ordered = rows := Except.ok.inj hrows
  have hperm := orderedRows_perm hordered
  rw [mem_uniqueBy, hperm.mem_iff]
  -- the ids tell the call logs apart
  intro a ha b hb hab
  exact List.inj_on_of_nodup_map db.callLogs_nodup
    (mem_callLogs_of_mem_listQuery (hperm.mem_iff.1 ha))
    (mem_callLogs_of_mem_listQuery (hperm.mem_iff.1 hb)) hab

lemma mem_listQuery_of_mem_findAllInPeriod (h : findAllInPeriod rules params db = .ok rows)
    (hstored : stored ∈ rows) : stored ∈ listQuery rules params db := by
  obtain ⟨ordered, hordered, window, hwindow, rfl⟩ := findAllInPeriod_eq_ok h
  exact (orderedRows_perm hordered).mem_iff.1
    (hwindow.subset ((uniqueBy_sublist _ window).subset hstored))

end CallLogDAO

/-! ### The service -/

/-- `RECORDING_FILENAME_RE`: the first group is the call log of the recording, the
second one its uuid. -/
def recordingFilenameRegex : Regex :=
  .seq .bos <| .seq (Regex.many1 Regex.dot) <| .seq (Regex.lit "-") <|
  .seq (.group 1 (Regex.many1 Char.isDigit)) <| .seq (Regex.lit "-") <|
  .seq (.group 2 (Regex.times
    (fun c => ('a' ≤ c ∧ c ≤ 'z') ∨ c.isDigit ∨ c = '-') 36)) <|
  .seq (.alt (.group 3 (.many Regex.dot)) .eps) .eos

/-- The number that a text of digits denotes. -/
def digitsValue (digits : List Char) : ℕ :=
  digits.foldl (fun n c => 10 * n + (c.toNat - '0'.toNat)) 0

/-- The name of the file of a recording is looked up by the call log in it. -/
def CDRService.readRecordingFilename (params : ListParams) : ListParams :=
  match (givenText params.search).bind fun search =>
      Regex.matchStart recordingFilenameRegex search.toList with
  | some caps => { params with search := none, id := some (digitsValue (caps.get 1)) }
  | none => params

/-- The parameters for the DAO: `user_uuids` becomes `terminal_user_uuids`. -/
def CDRService.daoParams (params : ListParams) : ListParams :=
  let params := readRecordingFilename params
  if params.userUuids = [] then params
  else { params with userUuids := [], terminalUserUuids := params.userUuids }

/-- The result of `CDRService.list`. -/
structure CDRList where
  items : List StoredCallLog
  filtered : ℕ
  total : ℕ

/-- `CDRService.list`. -/
def CDRService.list (rules : TextRules) (params : ListParams) (db : Database) :
    Except ListError CDRList := do
  let (count, params) := CallLogDAO.countInPeriod rules (daoParams params) db
  let callLogs ← CallLogDAO.findAllInPeriod rules params db
  return ⟨callLogs, count.filtered, count.total⟩

/-- The rows that the filters of a request select. -/
def CDRService.selected (rules : TextRules) (params : ListParams) (db : Database) :
    List StoredCallLog :=
  CallLogDAO.listQuery rules (CallLogDAO.setDefaultCallStatus (daoParams params)) db

namespace CDRService

variable {rules : TextRules} {params : ListParams} {db : Database} {r : CDRList}
  {stored : StoredCallLog}

lemma readRecordingFilename_window :
    (readRecordingFilename params).limit = params.limit ∧
      (readRecordingFilename params).offset = params.offset := by
  rw [readRecordingFilename]
  split <;> exact ⟨rfl, rfl⟩

lemma daoParams_window :
    (daoParams params).limit = params.limit ∧ (daoParams params).offset = params.offset := by
  rw [daoParams]
  split <;> exact readRecordingFilename_window

/-- The items are found with the parameters that the count leaves behind. -/
lemma findAllInPeriod_of_list (h : CDRService.list rules params db = .ok r) :
    CallLogDAO.findAllInPeriod rules (CallLogDAO.setDefaultCallStatus (daoParams params)) db =
      .ok r.items := by
  obtain ⟨callLogs, hfind, hr⟩ := Results.exists_of_bind_eq_ok h
  rw [← Except.ok.inj hr]
  exact hfind

lemma nodup_items (h : CDRService.list rules params db = .ok r) : (r.items.map (·.id)).Nodup :=
  CallLogDAO.nodup_findAllInPeriod (findAllInPeriod_of_list h)

/-- Without a limit and an offset, the items are the call logs that the filters
select. -/
lemma mem_items_iff (h : CDRService.list rules params db = .ok r) (hlimit : params.limit = none)
    (hoffset : params.offset = none) : stored ∈ r.items ↔ stored ∈ selected rules params db :=
  CallLogDAO.mem_findAllInPeriod_iff (findAllInPeriod_of_list h)
    (daoParams_window.1.trans hlimit) (daoParams_window.2.trans hoffset)

/-- The texts that are searched for decide what is read from them. -/
lemma readRecordingFilename_eq :
    readRecordingFilename params =
      ((givenText params.search).bind fun search =>
        Regex.matchStart recordingFilenameRegex search.toList).elim params fun caps =>
          { params with search := none, id := some (digitsValue (caps.get 1)) } := by
  rw [readRecordingFilename]
  cases (givenText params.search).bind fun search =>
    Regex.matchStart recordingFilenameRegex search.toList <;> rfl

end CDRService

end CallLogd
