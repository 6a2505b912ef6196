/-
The names under which recordings are sent.

The name of a file that is sent has the call log and the uuid of its recording.  Who looks
for it in the listing finds the call log again, and no other one
(`listed_by_downloadName`).
-/
import CallLogd.Media.Reading

namespace CallLogd

open Sequences

section Names

variable {rules : TextRules} {formats : SchemaFormats} {unreadable : Finset String}
  {request : MediaRequest} {sent : SentFile} {w : World} {params : ListParams}
  {stored : StoredCallLog} {db : Database} {row : RecordingRow} {text : String}

/-- A search for the name of a file is read as the call log of its recording. -/
lemma readRecordingFilename_filename (huuid : IsCanonicalUuid (formats.recordingUuid row.key))
    (hsearch : params.search = some (row.filename formats)) :
    CDRService.readRecordingFilename params =
      { params with search := none, id := some row.callLogId } := by
  obtain ⟨hlength, hclass⟩ := huuid.spec
  let start : ZonedTime := ⟨row.recording.startTime.getD 0, some 0⟩
  have hname : (row.filename formats).toList =
      (formatUtc start.dateUtc).toList ++
        '-' :: ((toString row.callLogId).toList ++
          '-' :: ((formats.recordingUuid row.key).toList ++ '.' :: "wav".toList)) := by
    simp only [RecordingRow.filename, NamedRecording.filename, String.toList_append,
      List.append_assoc]
    rfl
  have hdigits : (toString row.callLogId).toList ≠ [] := by
    rw [toList_toString]
    exact Nat.toDigits_ne_nil
  have hmatch := matchStart_recordingFilenameRegex (formatUtc_ne_nil start.dateUtc)
    (oneLine_formatUtc _) hdigits (fun _ => isDigit_toString) hlength hclass
    (by decide : "wav".toList.length < 35) (by decide)
  rw [← hname] at hmatch
  have hgiven : givenText (some (row.filename formats)) = some (row.filename formats) := by
    refine Option.filter_eq_some_iff.2 ⟨rfl, decide_eq_true fun hempty => ?_⟩
    rw [hempty] at hname
    exact absurd hname (by simp)
  rw [CDRService.readRecordingFilename_eq, hsearch, hgiven, Option.bind_some, hmatch,
    Option.elim_some]
  have hvalue : digitsValue (Regex.Captures.get [(3, '.' :: "wav".toList),
      (2, (formats.recordingUuid row.key).toList), (1, (toString row.callLogId).toList)] 1) =
        row.callLogId := digitsValue_toString row.callLogId
  rw [hvalue]

/-- The listing of a user or of a tenant, with a search. -/
def MediaRequest.search (request : MediaRequest) (text : String) : ListParams where
  search := some text
  tenantUuids := some request.tenantUuids
  meUserUuid := request.userUuid

/-- The call log that a request finds has its id and passes its filters. -/
lemma cdr_eq_some_iff : request.cdr rules db = some stored ↔ stored ∈ db.callLogs ∧
    CallLogDAO.filters rules { tenantUuids := some request.tenantUuids
                               userUuids := request.userUuid.toList } stored ∧
    stored.id = request.cdrId := by
  rw [MediaRequest.cdr, CallLogDAO.getById]
  constructor
  · intro hfound
    have hvisible := List.find?_some hfound
    rw [Bool.and_eq_true, decide_eq_true_eq] at hvisible
    exact ⟨List.mem_of_find?_eq_some hfound, hvisible⟩
  · rintro ⟨hmem, hfilters, hid⟩
    have hsome : (db.callLogs.find? fun stored =>
        CallLogDAO.filters rules { tenantUuids := some request.tenantUuids
                                   userUuids := request.userUuid.toList } stored &&
          stored.id = request.cdrId).isSome := by
      rw [List.find?_isSome]
      exact ⟨stored, hmem, by rw [hfilters, hid]; simp⟩
    obtain ⟨found, hfound⟩ := Option.isSome_iff_exists.1 hsome
    have hid' := (Bool.and_eq_true _ _ ▸ List.find?_some hfound).2
    rw [hfound, List.inj_on_of_nodup_map db.callLogs_nodup (List.mem_of_find?_eq_some hfound) hmem
      ((of_decide_eq_true hid').trans hid.symm)]

/-- The listing looks for the call log that the request looks for. -/
lemma mem_listQuery_search (huser : request.userUuid ≠ some "") :
    stored ∈ CallLogDAO.listQuery rules (CallLogDAO.setDefaultCallStatus
        { request.search text with search := none, id := some request.cdrId }) db ↔
      request.cdr rules db = some stored ∧ stored.log.blocked = false := by
  rw [cdr_eq_some_iff, CallLogDAO.listQuery, List.mem_filter]
  simp only [CallLogDAO.baseRows, CallLogDAO.setDefaultCallStatus, MediaRequest.search,
    CallLogDAO.userFilter, CallLogDAO.filters]
  cases hrequest : request.userUuid with
  | none =>
      simp [givenText, StatusFilter.selects, CallLog.notBlocked]
      tauto
  | some userUuid =>
      have hne : userUuid ≠ "" := fun hempty => huser (hempty ▸ hrequest)
      simp [givenText, hne, StatusFilter.selects, CallLog.notBlocked]
      tauto

/-- A search that is read as the id of a request lists its call log. -/
lemma list_search (hread : CDRService.readRecordingFilename (request.search text) =
      { request.search text with search := none, id := some request.cdrId })
    (huser : request.userUuid ≠ some "") (hcdr : request.cdr rules db = some stored) :
    ∃ r, CDRService.list rules (request.search text) db = .ok r ∧
      r.items = if stored.log.blocked then [] else [stored] := by
  have hparams : CDRService.daoParams (request.search text) =
      { request.search text with search := none, id := some request.cdrId } := by
    rw [CDRService.daoParams, hread]
    rfl
  have hlist : ∃ r, CDRService.list rules (request.search text) db = .ok r := by
    rw [CDRService.list, hparams]
    exact ⟨_, rfl⟩
  obtain ⟨r, hr⟩ := hlist
  refine ⟨r, hr, ?_⟩
  have hmem : ∀ found, found ∈ r.items ↔ found = stored ∧ found.log.blocked = false := by
    intro found
    rw [CDRService.mem_items_iff hr rfl rfl, CDRService.selected, hparams,
      mem_listQuery_search huser, hcdr, Option.some.injEq, eq_comm]
  cases hblocked : stored.log.blocked with
  | true =>
      refine List.eq_nil_iff_forall_not_mem.2 fun found hfound => ?_
      obtain ⟨rfl, hnot⟩ := (hmem found).1 hfound
      rw [hblocked] at hnot
      cases hnot
  | false =>
      have hnodup := (CDRService.nodup_items hr).of_map
      refine List.perm_singleton.1 ((List.perm_ext_iff_of_nodup hnodup (List.nodup_singleton _)).2
        fun found => ?_)
      rw [hmem, List.mem_singleton]
      exact ⟨And.left, fun heq => ⟨heq, heq ▸ hblocked⟩⟩

/-- Who looks for the name under which a recording was sent is listed its call log and nothing
else; if the call was blocked, the default status hides it. -/
theorem listed_by_downloadName (huuid : IsCanonicalUuid (formats.recordingUuid request.key))
    (huser : request.userUuid ≠ some "")
    (hsent : request.get rules formats unreadable w = .ok sent) :
    ∃ cdr r, request.cdr rules w.tables.db = some cdr ∧
      CDRService.list rules (request.search sent.downloadName) w.tables.db = .ok r ∧
      r.items = if cdr.log.blocked then [] else [cdr] := by
  rw [MediaRequest.get_eq, sendMedia_eq_ok_iff] at hsent
  obtain ⟨hcdr, row, path, hfound, -, -, -, rfl⟩ := hsent
  obtain ⟨cdr, hcdr⟩ := Option.ne_none_iff_exists'.1 hcdr
  obtain ⟨-, hid, hkey⟩ := hasRow_of_findBy hfound
  have hread : CDRService.readRecordingFilename (request.search (row.filename formats)) =
      { request.search (row.filename formats) with
        search := none, id := some row.callLogId } :=
    readRecordingFilename_filename (hkey.symm ▸ huuid) rfl
  rw [hid] at hread
  obtain ⟨r, hlist, hitems⟩ := list_search hread huser hcdr
  exact ⟨cdr, r, hcdr, hlist, hitems⟩

end Names

/-- A call log with a recording, which is named after its file. -/
def nightCall : CallLog :=
  { ({} : RawCallLog).fillCallLog with
    tenantUuid := some "t"
    recordings := [{ uuid := some (.ofPath nightRecording.uuid), path := .str "night.wav" }] }

/-- The tables with it, and its file. -/
def oneNight : World where
  tables := { db := (Database.empty.insertTenants {"t"}).insertCallLog nightCall }
  files := {"night.wav"}

/-- The request for its recording. -/
def nightRequest : MediaRequest where
  tenantUuids := ["t"]
  cdrId := 1
  key := .uuid (.ofPath nightRecording.uuid)

theorem listed_by_downloadName_oneNight :
    ∃ sent r, nightRequest.get .ascii .ascii ∅ oneNight = .ok sent ∧
      CDRService.list .ascii (nightRequest.search sent.downloadName) oneNight.tables.db = .ok r ∧
      r.items = [⟨1, nightCall⟩] := by
  have hsent : nightRequest.get .ascii .ascii ∅ oneNight = .ok ⟨"night.wav", true,
      "1970-01-01T00_00_00UTC-1-" ++ nightRecording.uuid ++ ".wav"⟩ := by
    decide +kernel
  have hcdr : nightRequest.cdr .ascii oneNight.tables.db = some ⟨1, nightCall⟩ := by
    decide +kernel
  obtain ⟨cdr, r, hfound, hlist, hitems⟩ :=
    listed_by_downloadName isCanonicalUuid_nightRecording (by decide) hsent
  obtain rfl : cdr = ⟨1, nightCall⟩ := Option.some.inj (hfound.symm.trans hcdr)
  exact ⟨_, r, hsent, hlist, hitems⟩

end CallLogd
