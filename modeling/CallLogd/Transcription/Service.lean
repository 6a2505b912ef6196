/-
The service of the transcriptions and the handler of the events of the voicemails:
`plugins/voicemail_transcription`.
-/
import CallLogd.Transcription.Store

namespace CallLogd

open Transactions

/-- The exceptions of the service. -/
inductive TranscriptionError where
  /-- `TranscriptionCreationFailedException`. -/
  | creationFailed (messageId : String)
  /-- `TranscriptionNotFoundException`, status 404. -/
  | notFound (messageId : String)
  /-- An exception of the DAO that is let through. -/
  | dao (error : TranscriptionDaoError)
deriving DecidableEq, Repr

namespace TranscriptionService

/-- `_is_unique_violation`. -/
def isUniqueViolation : TranscriptionDaoError → Bool
  | .integrityError pgcode => pgcode == "23505"
  | _ => false

def publish (notification : TranscriptionNotification) :
    Program TranscriptionState TranscriptionError Unit :=
  modify fun state => { state with published := state.published ++ [notification] }

/-- The transcription is updated where there is already one of the message. -/
def updateExisting (attributes : TranscriptionAttributes) :
    Program TranscriptionState TranscriptionError VoicemailTranscription := do
  let existing ← handle
    (VoicemailTranscriptionDAO.getByMessageId attributes.messageId (some [attributes.tenantUuid]))
    fun _ => throw (.creationFailed attributes.messageId)
  match existing with
  -- `None` has no `uuid`, and each exception is taken for a failed creation
  | none => throw (.creationFailed attributes.messageId)
  | some existing =>
      handle (VoicemailTranscriptionDAO.update existing.uuid attributes)
        fun _ => throw (.creationFailed attributes.messageId)

def createTranscription (attributes : TranscriptionAttributes) :
    Program TranscriptionState TranscriptionError VoicemailTranscription := do
  let transcription ← handle (VoicemailTranscriptionDAO.create attributes) fun e =>
    if isUniqueViolation e then updateExisting attributes
    else throw (.creationFailed attributes.messageId)
  publish (.created transcription)
  return transcription

def deleteTranscription (messageId : String) (tenantUuids : Option (List String)) :
    Program TranscriptionState TranscriptionError Bool := do
  let transcription ← handle (VoicemailTranscriptionDAO.getByMessageId messageId tenantUuids)
    fun e => throw (.dao e)
  match transcription with
  | none => throw (.notFound messageId)
  | some transcription =>
      let deleted ← handle (VoicemailTranscriptionDAO.deleteByMessageId messageId tenantUuids)
        fun e => throw (.dao e)
      if deleted then publish (.deleted transcription)
      return deleted

end TranscriptionService

/-- The events that the handler is subscribed to. -/
inductive TranscriptionEvent where
  | transcriptionCompleted (attributes : TranscriptionAttributes)
  /-- `user_voicemail_message_deleted` or `global_voicemail_message_deleted`. -/
  | voicemailMessageDeleted (messageId : String)
deriving DecidableEq

def TranscriptionEvent.messageId : TranscriptionEvent → String
  | transcriptionCompleted attributes => attributes.messageId
  | voicemailMessageDeleted messageId => messageId

namespace TranscriptionEventHandler

/-- One event: a failure is logged, and what is stored stays. -/
def handleEvent (state : TranscriptionState) : TranscriptionEvent → TranscriptionState
  | .transcriptionCompleted attributes =>
      (run (TranscriptionService.createTranscription attributes) state).2
  | .voicemailMessageDeleted messageId =>
      (run (TranscriptionService.deleteTranscription messageId none) state).2

def handleAll (state : TranscriptionState) (events : List TranscriptionEvent) :
    TranscriptionState :=
  events.foldl handleEvent state

end TranscriptionEventHandler

/-! ### What the table says -/

namespace TranscriptionTable

variable (table : TranscriptionTable) (messageId : String)

/-- What the transcription of a message says. -/
def contents : Option TranscriptionAttributes :=
  (table.rows.find? fun row => row.attributes.messageId = messageId).map (·.attributes)

variable {table messageId} {attributes old : TranscriptionAttributes}

lemma contents_eq_some_iff : table.contents messageId = some attributes ↔
    attributes ∈ table.rows.map (·.attributes) ∧ attributes.messageId = messageId := by
  rw [contents, Option.map_eq_some_iff, List.mem_map]
  constructor
  · rintro ⟨row, hfind, rfl⟩
    have hid : row.attributes.messageId = messageId := of_decide_eq_true (List.find?_some hfind :)
    exact ⟨⟨row, List.mem_of_find?_eq_some hfind, rfl⟩, hid⟩
  · rintro ⟨⟨row, hrow, rfl⟩, hid⟩
    cases hfind : table.rows.find? fun row => row.attributes.messageId = messageId with
    | none =>
      have hnone := List.find?_eq_none.1 hfind row hrow
      exact absurd hid (by simpa using hnone)
    | some row' =>
      -- a message has one row
      have hid' : row'.attributes.messageId = messageId :=
        of_decide_eq_true (List.find?_some hfind :)
      have hsame := List.inj_on_of_nodup_map table.messageId_nodup
        (List.mem_of_find?_eq_some hfind) hrow (hid'.trans hid.symm)
      exact ⟨row', rfl, congrArg _ hsame⟩

lemma contents_eq_none_iff : table.contents messageId = none ↔
    messageId ∉ table.rows.map (·.attributes.messageId) := by
  simp [contents, List.find?_eq_none, List.mem_map]

lemma contents_tenant_mem (h : table.contents messageId = some old) :
    old.tenantUuid ∈ table.tenants := by
  obtain ⟨row, hrow, rfl⟩ := List.mem_map.1 (contents_eq_some_iff.1 h).1
  exact table.tenant_mem row hrow

/-- A request that changes the rows of one message is a write to that message. -/
lemma contents_eq_update {table' : TranscriptionTable} {value : Option TranscriptionAttributes}
    (hself : ∀ found, found.messageId = messageId →
      (found ∈ table'.rows.map (·.attributes) ↔ value = some found))
    (hvalue : ∀ found ∈ value, found.messageId = messageId)
    (hother : ∀ found, found.messageId ≠ messageId →
      (found ∈ table'.rows.map (·.attributes) ↔ found ∈ table.rows.map (·.attributes))) :
    table'.contents = Function.update table.contents messageId value := by
  funext messageId'
  refine Option.ext fun found => ?_
  rw [contents_eq_some_iff]
  by_cases h : messageId' = messageId
  · rw [h, Function.update_self]
    constructor
    · rintro ⟨hmem, hid⟩
      exact (hself found hid).1 hmem
    · intro hfound
      have hid := hvalue found hfound
      exact ⟨(hself found hid).2 hfound, hid⟩
  · rw [Function.update_of_ne h, contents_eq_some_iff]
    refine and_congr_left fun hid => hother found fun hid' => h (hid.symm.trans hid')

lemma contents_insert (hmessageId : attributes.messageId ∉ table.rows.map (·.attributes.messageId))
    (htenant : attributes.tenantUuid ∈ table.tenants) :
    (table.insert attributes hmessageId htenant).contents =
      Function.update table.contents attributes.messageId (some attributes) := by
  have hrows : (table.insert attributes hmessageId htenant).rows.map (·.attributes) =
      table.rows.map (·.attributes) ++ [attributes] := by
    rw [insert, List.map_append, List.map_singleton]
  have hold : ∀ found ∈ table.rows.map (·.attributes),
      found.messageId ≠ attributes.messageId := by
    intro found hfound hid
    obtain ⟨row, hrow, rfl⟩ := List.mem_map.1 hfound
    exact hmessageId (hid ▸ List.mem_map_of_mem hrow)
  refine contents_eq_update (fun found hid => ?_) (fun found hfound => ?_) fun found hid => ?_
  · rw [hrows, List.mem_append, List.mem_singleton, Option.some.injEq, eq_comm (b := found)]
    exact or_iff_right fun hfound => hold found hfound hid
  · rw [← Option.some.inj hfound]
  · rw [hrows, List.mem_append, List.mem_singleton]
    exact or_iff_left fun heq => hid (congrArg _ heq)

lemma contents_replace {row : VoicemailTranscription} (hrow : row ∈ table.rows)
    (hid : row.attributes.messageId = attributes.messageId)
    (hmessageId : ∀ row' ∈ table.rows, row'.uuid ≠ row.uuid →
      row'.attributes.messageId ≠ attributes.messageId)
    (htenant : attributes.tenantUuid ∈ table.tenants) :
    (table.replace row.uuid attributes hmessageId htenant).contents =
      Function.update table.contents attributes.messageId (some attributes) := by
  have hmem : ∀ found,
      found ∈ (table.replace row.uuid attributes hmessageId htenant).rows.map (·.attributes) ↔
        ∃ row' ∈ table.rows, (if row'.uuid = row.uuid then attributes else row'.attributes) =
          found := by
    intro found
    rw [replace, List.map_map, List.mem_map]
    refine exists_congr fun row' => and_congr_right fun _ => ?_
    rw [Function.comp_apply]
    split <;> rfl
  refine contents_eq_update (fun found hfound => ?_) (fun found hfound => ?_) fun found hne => ?_
  · rw [hmem, Option.some.injEq]
    constructor
    · rintro ⟨row', hrow', heq⟩
      split at heq
      case isTrue => exact heq
      case isFalse huuid => exact absurd (heq ▸ hfound) (hmessageId row' hrow' huuid)
    · intro heq
      exact ⟨row, hrow, by rw [if_pos rfl, heq]⟩
  · rw [← Option.some.inj hfound]
  · rw [hmem, List.mem_map]
    refine exists_congr fun row' => and_congr_right fun hrow' => ?_
    split
    case isTrue huuid =>
      rw [List.inj_on_of_nodup_map table.uuid_nodup hrow' hrow huuid]
      exact ⟨fun heq => absurd (heq ▸ rfl) hne, fun heq => absurd (heq ▸ hid) hne⟩
    case isFalse => exact Iff.rfl

lemma contents_filterRows : (table.filterRows fun row =>
      !VoicemailTranscriptionDAO.ofMessage messageId none row).contents =
    Function.update table.contents messageId none := by
  have hmem : ∀ found, found ∈ (table.filterRows fun row =>
        !VoicemailTranscriptionDAO.ofMessage messageId none row).rows.map (·.attributes) ↔
      found ∈ table.rows.map (·.attributes) ∧ found.messageId ≠ messageId := by
    intro found
    simp only [filterRows, VoicemailTranscriptionDAO.ofMessage, List.mem_map, List.mem_filter]
    constructor
    · rintro ⟨row, ⟨hrow, hkept⟩, rfl⟩
      exact ⟨⟨row, hrow, rfl⟩, by simpa using hkept⟩
    · rintro ⟨⟨row, hrow, rfl⟩, hne⟩
      exact ⟨row, ⟨hrow, by simpa using hne⟩, rfl⟩
  refine contents_eq_update (fun found hid => ?_) (fun found hfound => ?_) fun found hne => ?_
  · rw [hmem]
    exact ⟨fun h => absurd hid h.2, fun h => absurd h.symm (Option.some_ne_none found)⟩
  · exact absurd hfound (Option.not_mem_none found)
  · rw [hmem]
    exact and_iff_left hne

/-- The table takes a completed transcription: its values fit, its tenant is known, and the
message is not that of another tenant. -/
def Accepts (table : TranscriptionTable) (attributes : TranscriptionAttributes) : Prop :=
  attributes.Fits ∧ attributes.tenantUuid ∈ table.tenants ∧
    ∀ old ∈ table.contents attributes.messageId, old.tenantUuid = attributes.tenantUuid

end TranscriptionTable

/-! ### The requests -/

section Requests

variable {state : TranscriptionState} {attributes : TranscriptionAttributes} {messageId : String}

lemma run_newTranscriptionSession {α : Type}
    {body : TranscriptionTable → Except TranscriptionDaoError (α × TranscriptionTable)} :
    run (newTranscriptionSession body) state =
      match body state.table with
      | .ok (a, table) => (.ok a, { state with table })
      | .error e => (.error e, state) := by
  rw [newTranscriptionSession, run_transaction]
  cases body state.table <;> rfl

section

open VoicemailTranscriptionDAO TranscriptionService TranscriptionTable

variable (state)

lemma run_getByMessageId (tenantUuids : Option (List String)) :
    run (getByMessageId messageId tenantUuids) state =
      (.ok (state.table.rows.find? (ofMessage messageId tenantUuids)), state) := by
  rw [getByMessageId, run_newTranscriptionSession]

variable {state}

lemma run_create_of_not_fits (hfits : ¬attributes.Fits) :
    run (create attributes) state = (.error .dataError, state) := by
  rw [create, run_newTranscriptionSession, if_pos hfits]

lemma run_create_of_stored {old : TranscriptionAttributes} (hfits : attributes.Fits)
    (hold : state.table.contents attributes.messageId = some old) :
    run (create attributes) state = (.error (.integrityError "23505"), state) := by
  have hmem : attributes.messageId ∈ state.table.rows.map (·.attributes.messageId) := by
    by_contra hmem
    exact absurd (hold.symm.trans (contents_eq_none_iff.2 hmem)) (Option.some_ne_none old)
  rw [create, run_newTranscriptionSession, if_neg (not_not.2 hfits), dif_pos hmem]

lemma run_create_of_unknown (hfits : attributes.Fits)
    (hnew : state.table.contents attributes.messageId = none)
    (htenant : attributes.tenantUuid ∉ state.table.tenants) :
    run (create attributes) state = (.error (.integrityError "23503"), state) := by
  rw [create, run_newTranscriptionSession, if_neg (not_not.2 hfits),
    dif_neg (contents_eq_none_iff.1 hnew), dif_neg htenant]

lemma run_create_of_new (hfits : attributes.Fits)
    (hnew : state.table.contents attributes.messageId = none)
    (htenant : attributes.tenantUuid ∈ state.table.tenants) :
    run (create attributes) state = (.ok ⟨state.table.nextUuid, attributes⟩,
      { state with
        table := state.table.insert attributes (contents_eq_none_iff.1 hnew) htenant }) := by
  rw [create, run_newTranscriptionSession, if_neg (not_not.2 hfits),
    dif_neg (contents_eq_none_iff.1 hnew), dif_pos htenant]

lemma run_update {row : VoicemailTranscription} (hfits : attributes.Fits)
    (hrow : row ∈ state.table.rows) (hid : row.attributes.messageId = attributes.messageId)
    (htenant : attributes.tenantUuid ∈ state.table.tenants) :
    ∃ table : TranscriptionTable,
      run (update row.uuid attributes) state =
        (.ok ⟨row.uuid, attributes⟩, { state with table }) ∧
      table.contents = Function.update state.table.contents attributes.messageId (some attributes) ∧
      table.tenants = state.table.tenants := by
  have huuid : ¬row.uuid ∉ state.table.rows.map (·.uuid) := not_not.2 (List.mem_map_of_mem hrow)
  have hmessageId : ∀ row' ∈ state.table.rows, row'.uuid ≠ row.uuid →
      row'.attributes.messageId ≠ attributes.messageId := by
    intro row' hrow' huuid' hid'
    have hsame := List.inj_on_of_nodup_map state.table.messageId_nodup hrow' hrow
      (hid'.trans hid.symm)
    rw [hsame] at huuid'
    exact huuid' rfl
  refine ⟨state.table.replace row.uuid attributes hmessageId htenant, ?_,
    contents_replace hrow hid hmessageId htenant, rfl⟩
  rw [update, run_newTranscriptionSession, if_neg huuid, if_neg (not_not.2 hfits),
    dif_pos hmessageId, dif_pos htenant]

/-- The transcription of a message is found by its tenant alone. -/
lemma find?_ofMessage {old : TranscriptionAttributes}
    (h : state.table.contents attributes.messageId = some old) :
    (old.tenantUuid = attributes.tenantUuid → ∃ row ∈ state.table.rows, row.attributes = old ∧
      state.table.rows.find? (ofMessage attributes.messageId (some [attributes.tenantUuid])) =
        some row) ∧
    (old.tenantUuid ≠ attributes.tenantUuid →
      state.table.rows.find? (ofMessage attributes.messageId (some [attributes.tenantUuid])) =
        none) := by
  obtain ⟨hold, hid⟩ := contents_eq_some_iff.1 h
  obtain ⟨row, hrow, rfl⟩ := List.mem_map.1 hold
  have hof : ∀ row', ofMessage attributes.messageId (some [attributes.tenantUuid]) row' = true ↔
      row'.attributes.messageId = attributes.messageId ∧
        row'.attributes.tenantUuid = attributes.tenantUuid := by
    intro row'
    simp [ofMessage]
  have hsame : ∀ row' ∈ state.table.rows,
      row'.attributes.messageId = attributes.messageId → row' = row := fun row' hrow' hid' =>
    List.inj_on_of_nodup_map state.table.messageId_nodup hrow' hrow (hid'.trans hid.symm)
  constructor
  · intro htenant
    cases hfind : state.table.rows.find?
        (ofMessage attributes.messageId (some [attributes.tenantUuid])) with
    | none => exact absurd ((hof row).2 ⟨hid, htenant⟩) (List.find?_eq_none.1 hfind row hrow)
    | some row' =>
      have hof' := (hof row').1 (List.find?_some hfind)
      exact ⟨row, hrow, rfl, by rw [hsame row' (List.mem_of_find?_eq_some hfind) hof'.1]⟩
  · intro htenant
    refine List.find?_eq_none.2 fun row' hrow' hfound => htenant ?_
    rw [← hsame row' hrow' ((hof row').1 hfound).1]
    exact ((hof row').1 hfound).2

lemma run_createTranscription_of_stored {old : TranscriptionAttributes} (hfits : attributes.Fits)
    (hold : state.table.contents attributes.messageId = some old) :
    run (createTranscription attributes) state = run (do
      let transcription ← updateExisting attributes
      publish (.created transcription)
      return transcription) state := by
  rw [createTranscription, run_bind, run_handle, run_create_of_stored hfits hold, run_bind]
  rfl

/-- A completed transcription that the table takes is stored, and published. -/
lemma run_createTranscription_of_accepts (h : state.table.Accepts attributes) :
    ∃ (uuid : ℕ) (table : TranscriptionTable),
      run (createTranscription attributes) state = (.ok ⟨uuid, attributes⟩,
        { table, published := state.published ++ [.created ⟨uuid, attributes⟩] }) ∧
      table.contents = Function.update state.table.contents attributes.messageId (some attributes) ∧
      table.tenants = state.table.tenants := by
  obtain ⟨hfits, htenant, hsame⟩ := h
  cases hold : state.table.contents attributes.messageId with
  | none =>
    refine ⟨state.table.nextUuid, _, ?_, contents_insert (contents_eq_none_iff.1 hold) htenant, rfl⟩
    rw [createTranscription, run_bind, run_handle, run_create_of_new hfits hold htenant]
    rfl
  | some old =>
    obtain ⟨row, hrow, rfl, hfind⟩ := (find?_ofMessage hold).1 (hsame old hold)
    obtain ⟨table, hupdate, hcontents, htenants⟩ :=
      run_update hfits hrow (contents_eq_some_iff.1 hold).2 htenant
    refine ⟨row.uuid, table, ?_, hcontents, htenants⟩
    have hexisting : run (updateExisting attributes) state =
        (.ok ⟨row.uuid, attributes⟩, { state with table }) := by
      rw [updateExisting, run_bind, run_handle, run_getByMessageId, hfind]
      show run (handle (update row.uuid attributes) _) state = _
      rw [run_handle, hupdate]
    rw [run_createTranscription_of_stored hfits hold, run_bind, hexisting]
    rfl

/-- A failed creation changes nothing. -/
lemma run_createTranscription_of_not_accepts (h : ¬state.table.Accepts attributes) :
    run (createTranscription attributes) state =
      (.error (.creationFailed attributes.messageId), state) := by
  by_cases hfits : attributes.Fits
  · cases hold : state.table.contents attributes.messageId with
    | none =>
      have htenant : attributes.tenantUuid ∉ state.table.tenants := fun htenant =>
        h ⟨hfits, htenant, fun old hold' => absurd (hold.symm.trans hold') (by simp)⟩
      rw [createTranscription, run_bind, run_handle, run_create_of_unknown hfits hold htenant]
      rfl
    | some old =>
      have hother : old.tenantUuid ≠ attributes.tenantUuid := by
        intro hsame
        refine h ⟨hfits, hsame ▸ contents_tenant_mem hold, fun old' hold' => ?_⟩
        rw [← Option.some.inj (hold.symm.trans hold'), hsame]
      have hexisting : run (updateExisting attributes) state =
          (.error (.creationFailed attributes.messageId), state) := by
        rw [updateExisting, run_bind, run_handle, run_getByMessageId,
          (find?_ofMessage hold).2 hother]
        rfl
      rw [run_createTranscription_of_stored hfits hold, run_bind, hexisting]
  · rw [createTranscription, run_bind, run_handle, run_create_of_not_fits hfits]
    rfl

variable (state messageId) in
lemma run_deleteTranscription : ∃ table : TranscriptionTable,
    (run (deleteTranscription messageId none) state).2.table = table ∧
      table.contents = Function.update state.table.contents messageId none ∧
      table.tenants = state.table.tenants := by
  rw [deleteTranscription, run_bind, run_handle, run_getByMessageId]
  cases hfind : state.table.rows.find? (ofMessage messageId none) with
  | none =>
    refine ⟨state.table, rfl, ?_, rfl⟩
    have hnone : state.table.contents messageId = none := by
      rw [contents_eq_none_iff]
      intro hmem
      obtain ⟨row, hrow, hid⟩ := List.mem_map.1 hmem
      exact List.find?_eq_none.1 hfind row hrow (by simp [ofMessage, hid])
    rw [← hnone, Function.update_eq_self]
  | some row =>
    refine ⟨_, ?_, contents_filterRows, rfl⟩
    show (run _ state).2.table = _
    rw [run_bind, run_handle, deleteByMessageId, run_newTranscriptionSession]
    have hany : state.table.rows.any (ofMessage messageId none) = true :=
      List.any_eq_true.2 ⟨row, List.mem_of_find?_eq_some hfind, List.find?_some hfind⟩
    rw [hany]
    rfl

end

end Requests

end CallLogd
