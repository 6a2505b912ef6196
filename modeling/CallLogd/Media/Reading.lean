/-
The media of recordings on request.

What is sent is found through the rows, so a request that is sent a file would have been
sent it at any time before, if the file had been there.  Once its row has lost its path in a
deletion, a recording is only sent for a call log that is created anew
(`sent_until_deleted`).
-/
import CallLogd.Listing.Increments
import CallLogd.Listing.Schema
import CallLogd.Media.Deletion
import CallLogd.Media.Life

namespace CallLogd

open Sequences Transactions

/-! ### Requests -/

/-- How a request for the media of a recording fails. -/
inductive ReadingError where
  | cdrNotFound (cdrId : ℕ)
  | recordingNotFound (key : RecordingKey)
  | recordingMediaNotFound (key : RecordingKey)
  | recordingMediaFSPermission (key : RecordingKey) (path : Json)
  | recordingMediaFSNotFound (key : RecordingKey) (path : Json)
deriving DecidableEq

/-- A file that is sent. -/
structure SentFile where
  path : String
  asAttachment : Bool
  downloadName : String
deriving DecidableEq, Repr

/-- `send_file`, up to the opening of the file. -/
def sendFile (unreadable files : Finset String) (sent : SentFile) :
    Except Files.OSError SentFile :=
  if sent.path ∈ unreadable then .error .permissionError
  else if sent.path ∈ files then .ok sent
  else .error .fileNotFoundError

/-- `Recording.filename`, of a row. -/
def RecordingRow.filename (formats : SchemaFormats) (row : RecordingRow) : String :=
  NamedRecording.filename ⟨⟨row.recording.startTime.getD 0, some 0⟩, row.callLogId,
    formats.recordingUuid row.key⟩

section Resources

variable (rules : TextRules) (formats : SchemaFormats) (unreadable : Finset String)
  (tenantUuids : List String)

/-- The answer of a request, from the call log that it finds. -/
def sendMedia (cdr : Option StoredCallLog) (cdrId : ℕ) (key : RecordingKey) (range : Bool)
    (w : World) : Except ReadingError SentFile :=
  match cdr with
  | none => .error (.cdrNotFound cdrId)
  | some _ =>
      match RecordingDAO.findBy cdrId key w.tables.db with
      | none => .error (.recordingNotFound key)
      | some row =>
          match row.recording.filePath with
          | none => .error (.recordingMediaNotFound key)
          | some path =>
              (sendFile unreadable w.files ⟨path, !range, row.filename formats⟩).mapError fun
                | .permissionError => .recordingMediaFSPermission key row.recording.path
                | .fileNotFoundError => .recordingMediaFSNotFound key row.recording.path

/-- `RecordingMediaItemResource.get`; `range` tells whether there is a header of that name. -/
def RecordingMediaItemResource.get (cdrId : ℕ) (key : RecordingKey) (range : Bool) (w : World) :
    Except ReadingError SentFile :=
  sendMedia formats unreadable (CDRService.get rules tenantUuids cdrId w.tables.db) cdrId key
    range w

/-- `RecordingMediaItemUserMeResource.get`, of a user whom the token names. -/
def RecordingMediaItemUserMeResource.get (userUuid : String) (cdrId : ℕ) (key : RecordingKey)
    (range : Bool) (w : World) : Except ReadingError SentFile :=
  sendMedia formats unreadable
    (CallLogDAO.getById rules cdrId (some tenantUuids) [userUuid] w.tables.db) cdrId key range w

end Resources

/-- A request for the media of a recording, of a user or of a tenant. -/
structure MediaRequest where
  tenantUuids : List String
  userUuid : Option String := none
  cdrId : ℕ
  key : RecordingKey
  range : Bool := false

namespace MediaRequest

variable (rules : TextRules) (formats : SchemaFormats) (unreadable : Finset String)

/-- The call log that a request finds. -/
def cdr (request : MediaRequest) (db : Database) : Option StoredCallLog :=
  CallLogDAO.getById rules request.cdrId (some request.tenantUuids) request.userUuid.toList db

/-- The answer to a request. -/
def get (request : MediaRequest) (w : World) : Except ReadingError SentFile :=
  match request.userUuid with
  | none => RecordingMediaItemResource.get rules formats unreadable request.tenantUuids
      request.cdrId request.key request.range w
  | some userUuid => RecordingMediaItemUserMeResource.get rules formats unreadable
      request.tenantUuids userUuid request.cdrId request.key request.range w

lemma get_eq (request : MediaRequest) (w : World) : request.get rules formats unreadable w =
    sendMedia formats unreadable (request.cdr rules w.tables.db) request.cdrId request.key
      request.range w := by
  rw [get, cdr]
  cases request.userUuid with
  | none => rfl
  | some userUuid => rfl

end MediaRequest

/-! ### What is sent -/

section Sent

variable {rules : TextRules} {formats : SchemaFormats} {unreadable files : Finset String}
  {request : MediaRequest} {sent sent' : SentFile} {w w' : World} {cdr : Option StoredCallLog}
  {cdrId : ℕ} {key : RecordingKey} {range : Bool} {db : Database} {row : RecordingRow}

lemma sendFile_eq_ok_iff : sendFile unreadable files sent = .ok sent' ↔
    sent.path ∉ unreadable ∧ sent.path ∈ files ∧ sent = sent' := by
  rw [sendFile]
  split
  · simp_all
  · split <;> simp_all

/-- What is sent is the file of a row of a call log that the request finds. -/
lemma sendMedia_eq_ok_iff :
    sendMedia formats unreadable cdr cdrId key range w = .ok sent ↔
      cdr ≠ none ∧ ∃ row path, RecordingDAO.findBy cdrId key w.tables.db = some row ∧
        row.recording.filePath = some path ∧ path ∉ unreadable ∧ path ∈ w.files ∧
        (⟨path, !range, row.filename formats⟩ : SentFile) = sent := by
  cases cdr with
  | none => exact ⟨nofun, fun h => absurd rfl h.1⟩
  | some stored =>
      cases hrow : RecordingDAO.findBy cdrId key w.tables.db with
      | none => simp [sendMedia, hrow]
      | some row =>
          cases hpath : row.recording.filePath with
          | none => simp [sendMedia, hrow, hpath]
          | some path =>
              simp [sendMedia, hrow, hpath, Results.mapError_eq_ok_iff, sendFile_eq_ok_iff]

end Sent

/-! ### The life of the service -/

/-- The service goes on, or files come and go. -/
inductive MediaStep : World → World → Prop
  | life {removed : List String} {w w' : World} (h : LifeStep w removed w') : MediaStep w w'
  | files (files : Finset String) (w : World) : MediaStep w { w with files := files }

lemma MediaStep.later {w w' : World} (h : MediaStep w w') :
    w.tables.db.Later w'.tables.db := by
  cases h with
  | life h => exact h.later
  | files => exact .refl

lemma later_of_mediaSteps {w w' : World} (h : Relation.ReflTransGen MediaStep w w') :
    w.tables.db.Later w'.tables.db := by
  induction h with
  | refl => exact .refl
  | tail _ hstep ih => exact ih.trans hstep.later

/-! ### What stays readable -/

section Later

variable {rules : TextRules} {formats : SchemaFormats} {unreadable : Finset String}
  {request : MediaRequest} {sent : SentFile} {w w' : World} {db db' : Database}
  {cdrId : ℕ} {key : RecordingKey} {row : RecordingRow}

/-- A request finds a call log if it has found what it was before. -/
lemma cdr_of_later (h : db.Later db') (hid : request.cdrId < db.nextCallLogId)
    (hcdr : request.cdr rules db' ≠ none) : request.cdr rules db ≠ none := by
  obtain ⟨stored', hfound⟩ := Option.ne_none_iff_exists'.1 hcdr
  have hvisible := List.find?_some hfound
  rw [Bool.and_eq_true, decide_eq_true_eq] at hvisible
  obtain ⟨stored, hstored, hfades⟩ := (h.callLogs stored' (List.mem_of_find?_eq_some hfound)
    ).resolve_right (Nat.not_le.2 (hvisible.2 ▸ hid))
  obtain ⟨recordings, rfl, hempty⟩ := hfades.exists_withRecordings
  rw [MediaRequest.cdr, CallLogDAO.getById, Ne, List.find?_eq_none]
  intro hnone
  refine hnone stored hstored ?_
  rw [Bool.and_eq_true, decide_eq_true_eq]
  refine ⟨?_, hvisible.2⟩
  have hfilters := hvisible.1
  rwa [CallLogDAO.filters, StoredCallLog.recordings_withRecordings, hempty] at hfilters

/-- A key has one row. -/
lemma Database.HasRow.eq {row' : RecordingRow} (h : db.HasRow row)
    (hkeys : db.DistinctRecordings) (h' : db.HasRow row') (hid : row.callLogId = row'.callLogId)
    (hkey : row.key = row'.key) : row = row' := by
  obtain ⟨stored, hmem, hstored, hrow⟩ := h
  obtain ⟨stored', hmem', hstored', hrow'⟩ := h'
  obtain rfl := List.inj_on_of_nodup_map db.callLogs_nodup hmem hmem'
    (hstored.trans (hid.trans hstored'.symm))
  have heq := List.inj_on_of_nodup_map (hkeys stored hmem) hrow hrow' hkey
  obtain ⟨callLogId, key, recording⟩ := row
  obtain ⟨rfl, rfl⟩ := Prod.mk.inj heq
  obtain rfl : callLogId = row'.callLogId := hid
  rfl

/-- A row of the table with its key is the one that is found. -/
lemma findBy_of_hasRow (hkeys : db.DistinctRecordings) (hrow : db.HasRow row) :
    RecordingDAO.findBy row.callLogId row.key db = some row := by
  cases hfound : RecordingDAO.findBy row.callLogId row.key db with
  | none =>
      obtain ⟨stored, hstored, hid, hmem⟩ := hrow
      rw [RecordingDAO.findBy, List.find?_eq_none] at hfound
      refine absurd ?_ (hfound row (List.mem_flatMap.2 ⟨stored, hstored, ?_⟩))
      · simp
      · exact List.mem_map.2 ⟨(row.key, row.recording), mem_sortedBy.2 hmem, by rw [hid]⟩
  | some found =>
      obtain ⟨hfoundRow, hid, hkey⟩ := hasRow_of_findBy hfound
      rw [hfoundRow.eq hkeys hrow hid hkey]

/-- A row with a path was there before. -/
lemma findBy_of_later (h : db.Later db') (hkeys : db.DistinctRecordings)
    (hid : cdrId < db.nextCallLogId) (hfound : RecordingDAO.findBy cdrId key db' = some row)
    (hpath : row.recording.filePath ≠ none) : RecordingDAO.findBy cdrId key db = some row := by
  obtain ⟨⟨stored', hstored', hstoredId, hmem⟩, rfl, rfl⟩ := hasRow_of_findBy hfound
  have hlive : row.recording.deleted = false := by
    rw [Recording.deleted, decide_eq_false_iff_not]
    intro hnull
    rw [Recording.filePath, hnull] at hpath
    exact hpath rfl
  obtain ⟨-, stored, hstored, hbefore, hrow⟩ :=
    (h.liveRow ⟨hlive, stored', hstored', hstoredId, hmem⟩).resolve_right (Nat.not_le.2 hid)
  exact findBy_of_hasRow hkeys ⟨stored, hstored, hbefore, hrow⟩

/-- A request that is sent a file would have been sent it before, from the same files. -/
lemma get_of_later (h : w.tables.db.Later w'.tables.db)
    (hkeys : w.tables.db.DistinctRecordings) (hid : request.cdrId < w.tables.db.nextCallLogId)
    (hsent : request.get rules formats unreadable w' = .ok sent) :
    request.get rules formats unreadable ⟨w.tables, w'.files⟩ = .ok sent := by
  rw [MediaRequest.get_eq, sendMedia_eq_ok_iff] at hsent ⊢
  obtain ⟨hcdr, row, path, hfound, hpath, hreadable, hexists, hanswer⟩ := hsent
  refine ⟨cdr_of_later h hid hcdr, row, path, ?_, hpath, hreadable, hexists, hanswer⟩
  exact findBy_of_later h hkeys hid hfound (hpath ▸ Option.some_ne_none path)

/-- The row of what is sent points to it. -/
lemma hasFile_of_get (hsent : request.get rules formats unreadable w = .ok sent) :
    w.tables.db.HasFile request.cdrId request.key sent.path := by
  rw [MediaRequest.get_eq, sendMedia_eq_ok_iff] at hsent
  obtain ⟨-, row, path, hfound, hpath, -, -, rfl⟩ := hsent
  obtain ⟨⟨stored, hstored, hid, hmem⟩, hcallLogId, hkey⟩ := hasRow_of_findBy hfound
  exact ⟨stored, hstored, hid.trans hcallLogId, row.recording, hkey ▸ hmem, hpath⟩

end Later

section Deletions

variable {rules : TextRules} {refused : Finset String} {w w' : World} {row : RecordingRow}
  {rows : List RecordingRow}

/-- The ids stay, no row gets a path, and some rows have none. -/
structure World.Cleared (w w' : World) (rows : List RecordingRow) : Prop where
  nextCallLogId : w'.tables.db.nextCallLogId = w.tables.db.nextCallLogId
  hasFile : ∀ id key path, w'.tables.db.HasFile id key path → w.tables.db.HasFile id key path
  cleared : ∀ row ∈ rows, ∀ path, ¬ w'.tables.db.HasFile row.callLogId row.key path

/-- A deletion clears its row, whether or not it succeeds. -/
lemma cleared_deleteMedia {callLogId : ℕ} {key : RecordingKey} {path : Option String}
    {onError : Files.OSError → Program World DeletionError Unit}
    (honError : ∀ e w, (run (onError e) w).2 = w) (hid : row.callLogId = callLogId)
    (hkey : row.key = key) :
    w.Cleared (run (handle (RecordingService.deleteMedia refused callLogId key path)
      onError) w).2 [row] := by
  rw [snd_run_handle honError, snd_run_deleteMedia]
  refine ⟨rfl, fun id key path h => (hasFile_deleteMediaBy.1 h).1, fun row' hrow' path h => ?_⟩
  obtain rfl := List.mem_singleton.1 hrow'
  exact (hasFile_deleteMediaBy.1 h).2 ⟨hid, hkey⟩

/-- Deletions that complete clear all their rows. -/
lemma cleared_forM_deleteMedia
    {onError : RecordingRow → Files.OSError → Program World DeletionError Unit}
    (honError : ∀ row e w, (run (onError row e) w).2 = w)
    (hrun : run (rows.forM fun row =>
      handle (RecordingService.deleteMedia refused row.callLogId row.key row.recording.filePath)
        (onError row)) w = (.ok (), w')) : w.Cleared w' rows := by
  induction rows generalizing w with
  | nil =>
      obtain ⟨-, rfl⟩ := Prod.mk.inj hrun
      exact ⟨rfl, fun _ _ _ h => h, nofun⟩
  | cons row rows ih =>
      obtain ⟨⟨⟩, w₁, hfirst, hrest⟩ := run_bind_eq_ok hrun
      have hcleared : w.Cleared w₁ [row] := by
        have h : w.Cleared (run (handle (RecordingService.deleteMedia refused row.callLogId
            row.key row.recording.filePath) (onError row)) w).2 [row] :=
          cleared_deleteMedia (honError row) rfl rfl
        rwa [hfirst] at h
      have hrest := ih hrest
      refine ⟨hrest.nextCallLogId.trans hcleared.nextCallLogId,
        fun id key path h => hcleared.hasFile id key path (hrest.hasFile id key path h),
        fun row' hrow' path h => ?_⟩
      rcases List.mem_cons.1 hrow' with rfl | hrow'
      · exact hcleared.cleared row' (List.mem_singleton_self _) path (hrest.hasFile _ _ _ h)
      · exact hrest.cleared row' hrow' path h

/-- A request that completes clears its rows. -/
lemma cleared_request {deletion : DeletionRequest}
    (hrun : run (deletion.program rules refused) w = (.ok (), w')) :
    w.Cleared w' (deletion.rows rules w.tables.db) := by
  cases deletion with
  | bulk tenantUuids cdrIds =>
      have hrun : run (RecordingsMediaResource.delete rules tenantUuids refused cdrIds) w =
        (.ok (), w') := hrun
      rw [RecordingsMediaResource.delete, run_bind_of_ok run_get] at hrun
      rw [DeletionRequest.rows]
      cases hrecordings : recordingsToDelete rules tenantUuids w.tables.db cdrIds with
      | error e =>
          rw [hrecordings] at hrun
          cases hrun
      | ok recordings =>
          rw [hrecordings] at hrun
          refine cleared_forM_deleteMedia (fun row e w => ?_) hrun
          cases e with
          | permissionError => rfl
          | fileNotFoundError => rfl
  | single tenantUuids cdrId key =>
      have hrun : run (RecordingMediaItemResource.delete rules tenantUuids refused cdrId key) w =
        (.ok (), w') := hrun
      rw [RecordingMediaItemResource.delete, run_bind_of_ok run_get] at hrun
      rw [DeletionRequest.rows]
      cases hcdr : CDRService.get rules tenantUuids cdrId w.tables.db with
      | none =>
          rw [hcdr] at hrun
          cases hrun
      | some cdr =>
          cases hrow : RecordingDAO.findBy cdrId key w.tables.db with
          | none =>
              rw [hcdr, hrow] at hrun
              cases hrun
          | some row =>
              rw [hcdr, hrow] at hrun
              obtain ⟨-, hid, hkey⟩ := hasRow_of_findBy hrow
              obtain rfl : _ = w' := congrArg Prod.snd hrun
              refine cleared_deleteMedia (fun e w => ?_) hid hkey
              cases e with
              | permissionError => rfl
              | fileNotFoundError => rfl

/-- The rows of a request are in the table. -/
lemma hasRow_of_mem_rows {deletion : DeletionRequest} {db : Database}
    (hrow : row ∈ deletion.rows rules db) : db.HasRow row := by
  cases deletion with
  | bulk tenantUuids cdrIds =>
      rw [DeletionRequest.rows] at hrow
      cases hrecordings : recordingsToDelete rules tenantUuids db cdrIds with
      | error e =>
          rw [hrecordings] at hrow
          cases hrow
      | ok recordings =>
          rw [hrecordings] at hrow
          exact hasRow_of_mem_recordingsToDelete hrecordings row hrow
  | single tenantUuids cdrId key =>
      rw [DeletionRequest.rows] at hrow
      cases hcdr : CDRService.get rules tenantUuids cdrId db with
      | none =>
          rw [hcdr] at hrow
          cases hrow
      | some cdr =>
          rw [hcdr] at hrow
          exact (hasRow_of_findBy (Option.mem_toList.1 hrow)).1

lemma Database.HasRow.callLogId_lt {db : Database} (h : db.HasRow row) :
    row.callLogId < db.nextCallLogId := by
  obtain ⟨stored, hstored, hid, -⟩ := h
  exact hid ▸ db.callLogs_lt stored hstored

end Deletions

/-- No two call logs have a recording with the same key. -/
def Database.OneRowPerKey (db : Database) : Prop :=
  ∀ row row' : RecordingRow, db.HasRow row → db.HasRow row' → row.key = row'.key →
    row.callLogId = row'.callLogId

/-- A request that is sent a file at some time would have been sent it at any time before, since
the call log was created, if the file had been there.  After a request that has deleted a row,
whatever happens, a file of a recording with its key is sent for another call log only; if no
two rows had one key, for one that was created after the deletion. -/
theorem sent_until_deleted (rules : TextRules) (formats : SchemaFormats) {w w' : World}
    (hkeys : w.tables.db.DistinctRecordings) (h : Relation.ReflTransGen MediaStep w w') :
    (∀ request unreadable sent, request.cdrId < w.tables.db.nextCallLogId →
      MediaRequest.get rules formats unreadable request w' = .ok sent →
      MediaRequest.get rules formats unreadable request ⟨w.tables, w'.files⟩ = .ok sent) ∧
    ∀ deletion refused w₀, run (DeletionRequest.program rules refused deletion) w₀ = (.ok (), w) →
      ∀ row ∈ deletion.rows rules w₀.tables.db, ∀ request : MediaRequest,
        request.key = row.key → ∀ unreadable sent,
          request.get rules formats unreadable w' = .ok sent →
            request.cdrId ≠ row.callLogId ∧
              (w₀.tables.db.OneRowPerKey → w.tables.db.nextCallLogId ≤ request.cdrId) := by
  have hlater := later_of_mediaSteps h
  refine ⟨fun request unreadable sent hid hsent => get_of_later hlater hkeys hid hsent,
    fun deletion refused w₀ hrun row hrow request hkey unreadable sent hsent => ?_⟩
  have hcleared := cleared_request hrun
  have hhasRow := hasRow_of_mem_rows hrow
  -- what is sent of an old call log was there right after the deletion
  have hfile : request.cdrId < w.tables.db.nextCallLogId →
      w.tables.db.HasFile request.cdrId row.key sent.path := by
    intro hlt
    have hbefore := hasFile_of_get (get_of_later hlater hkeys hlt hsent)
    rwa [hkey] at hbefore
  have hother : request.cdrId ≠ row.callLogId := by
    intro hid
    have hlt : request.cdrId < w.tables.db.nextCallLogId := by
      rw [hid, hcleared.nextCallLogId]
      exact hhasRow.callLogId_lt
    exact hcleared.cleared row hrow _ (hid ▸ hfile hlt)
  refine ⟨hother, fun hunique => Nat.le_of_not_lt fun hlt => hother ?_⟩
  obtain ⟨stored, hstored, hid, recording, hmem, -⟩ := hcleared.hasFile _ _ _ (hfile hlt)
  exact hunique ⟨request.cdrId, row.key, recording⟩ row ⟨stored, hstored, hid, hmem⟩ hhasRow rfl

/-- A request for the only recording. -/
def oneRequest : MediaRequest where
  tenantUuids := ["t"]
  cdrId := 1
  key := .uuid (.ofPath "r")

/-- Its recording is deleted, and then there is a file of its name again. -/
theorem sent_until_deleted_oneRecording :
    let w := (run (oneDeletion.program .ascii ∅) oneRecording).2
    oneRequest.get .ascii .ascii ∅ oneRecording =
      .ok ⟨"r.wav", true, "1970-01-01T00_00_00UTC-1-r.wav"⟩ ∧
    ∀ unreadable sent, oneRequest.get .ascii .ascii unreadable { w with files := {"r.wav"} } ≠
      .ok sent := by
  have hcompletes : (run (oneDeletion.program .ascii ∅) oneRecording).1 = .ok () := by
    decide +kernel
  have hkeys :
      (run (oneDeletion.program .ascii ∅) oneRecording).2.tables.db.DistinctRecordings := by
    decide +kernel
  refine ⟨by decide +kernel, fun unreadable sent hsent => ?_⟩
  have hsteps : Relation.ReflTransGen MediaStep
      (run (oneDeletion.program .ascii ∅) oneRecording).2
      { (run (oneDeletion.program .ascii ∅) oneRecording).2 with files := {"r.wav"} } :=
    .single (.files {"r.wav"} _)
  exact ((sent_until_deleted .ascii .ascii hkeys hsteps).2 oneDeletion ∅ oneRecording
    (Prod.ext hcompletes rfl) ⟨1, .uuid (.ofPath "r"), _⟩ List.mem_cons_self oneRequest rfl
    unreadable sent hsent).1 rfl

end CallLogd
