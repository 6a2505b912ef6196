/-
The table of the transcriptions of voicemails, and the requests that are made to it:
`database/queries/voicemail_transcription.py`.
-/
import Mathlib.Data.Finset.Dedup
import Mathlib.Data.Rat.Defs
import Mathlib.Tactic
import CallLogd.Lib.Transactions

namespace CallLogd

open Transactions

/-- What a completed transcription says. -/
structure TranscriptionAttributes where
  messageId : String
  tenantUuid : String
  transcriptionText : String
  voicemailId : Option ℤ := none
  providerId : Option String := none
  language : Option String := none
  duration : Option ℚ := none
deriving DecidableEq

/-- A row of `call_logd_voicemail_transcription`. -/
structure VoicemailTranscription where
  /-- `uuid_generate_v4()`, a fresh name. -/
  uuid : ℕ
  attributes : TranscriptionAttributes
deriving DecidableEq

/-- The values fit the columns of the table. -/
def TranscriptionAttributes.Fits (attributes : TranscriptionAttributes) : Prop :=
  attributes.messageId.length ≤ 255 ∧
    (∀ language ∈ attributes.language, language.length ≤ 8) ∧
    (∀ voicemailId ∈ attributes.voicemailId, -2 ^ 31 ≤ voicemailId ∧ voicemailId < 2 ^ 31) ∧
    -- a text of the database has no NUL
    ∀ text ∈ [some attributes.messageId, some attributes.transcriptionText,
      attributes.providerId, attributes.language].reduceOption, '\x00' ∉ text.toList

instance (attributes : TranscriptionAttributes) : Decidable attributes.Fits :=
  inferInstanceAs (Decidable (_ ∧ _ ∧ _ ∧ _))

/-- The table, with its keys and the tenants that it refers to. -/
structure TranscriptionTable where
  tenants : Finset String := ∅
  rows : List VoicemailTranscription := []
  /-- The next name that is drawn. -/
  nextUuid : ℕ := 0
  uuid_nodup : (rows.map (·.uuid)).Nodup := by decide
  uuid_lt : ∀ row ∈ rows, row.uuid < nextUuid := by decide
  messageId_nodup : (rows.map (·.attributes.messageId)).Nodup := by decide
  tenant_mem : ∀ row ∈ rows, row.attributes.tenantUuid ∈ tenants := by decide

namespace TranscriptionTable

variable (table : TranscriptionTable)

/-- Insert a row with the next name. -/
def insert (attributes : TranscriptionAttributes)
    (hmessageId : attributes.messageId ∉ table.rows.map (·.attributes.messageId))
    (htenant : attributes.tenantUuid ∈ table.tenants) : TranscriptionTable :=
  { table with
    rows := table.rows ++ [⟨table.nextUuid, attributes⟩]
    nextUuid := table.nextUuid + 1
    uuid_nodup := by
      have hnew : table.nextUuid ∉ table.rows.map (·.uuid) := fun h => by
        obtain ⟨row, hrow, huuid⟩ := List.mem_map.1 h
        exact absurd huuid (table.uuid_lt row hrow).ne
      rw [List.map_append, List.map_singleton, ← List.concat_eq_append]
      exact (List.nodup_concat _ _).2 ⟨hnew, table.uuid_nodup⟩
    uuid_lt := by
      intro row h
      rcases List.mem_append.1 h with h | h
      · exact (table.uuid_lt row h).trans (Nat.lt_succ_self _)
      · rw [List.mem_singleton.1 h]
        exact Nat.lt_succ_self _
    messageId_nodup := by
      rw [List.map_append, List.map_singleton, ← List.concat_eq_append]
      exact (List.nodup_concat _ _).2 ⟨hmessageId, table.messageId_nodup⟩
    tenant_mem := by
      intro row h
      rcases List.mem_append.1 h with h | h
      · exact table.tenant_mem row h
      · rw [List.mem_singleton.1 h]
        exact htenant }

/-- Give the row of a name other attributes. -/
def replace (uuid : ℕ) (attributes : TranscriptionAttributes)
    (hmessageId : ∀ row ∈ table.rows, row.uuid ≠ uuid →
      row.attributes.messageId ≠ attributes.messageId)
    (htenant : attributes.tenantUuid ∈ table.tenants) : TranscriptionTable :=
  { table with
    rows := table.rows.map fun row => if row.uuid = uuid then { row with attributes } else row
    uuid_nodup := by
      have hkeep : table.rows.map (fun row =>
          (if row.uuid = uuid then { row with attributes } else row).uuid) =
          table.rows.map (·.uuid) := List.map_congr_left fun row _ => by split <;> rfl
      rw [List.map_map]
      exact hkeep ▸ table.uuid_nodup
    uuid_lt := by
      intro row h
      obtain ⟨row', hrow', rfl⟩ := List.mem_map.1 h
      have := table.uuid_lt row' hrow'
      split <;> exact this
    messageId_nodup := by
      rw [List.map_map]
      refine List.Nodup.map_on ?_ (List.Nodup.of_map _ table.uuid_nodup)
      intro row hrow row' hrow' heq
      simp only [Function.comp_apply] at heq
      by_cases h : row.uuid = uuid <;> by_cases h' : row'.uuid = uuid
      · exact List.inj_on_of_nodup_map table.uuid_nodup hrow hrow' (h.trans h'.symm)
      · rw [if_pos h, if_neg h'] at heq
        exact absurd heq.symm (hmessageId row' hrow' h')
      · rw [if_neg h, if_pos h'] at heq
        exact absurd heq (hmessageId row hrow h)
      · rw [if_neg h, if_neg h'] at heq
        exact List.inj_on_of_nodup_map table.messageId_nodup hrow hrow' heq
    tenant_mem := by
      intro row h
      obtain ⟨row', hrow', rfl⟩ := List.mem_map.1 h
      split
      · exact htenant
      · exact table.tenant_mem row' hrow' }

/-- Keep the rows that satisfy a predicate. -/
def filterRows (p : VoicemailTranscription → Bool) : TranscriptionTable :=
  { table with
    rows := table.rows.filter p
    uuid_nodup := table.uuid_nodup.sublist (List.filter_sublist.map _)
    uuid_lt := fun row h => table.uuid_lt row (List.mem_of_mem_filter h)
    messageId_nodup := table.messageId_nodup.sublist (List.filter_sublist.map _)
    tenant_mem := fun row h => table.tenant_mem row (List.mem_of_mem_filter h) }

end TranscriptionTable

/-- The exceptions of the DAO. -/
inductive TranscriptionDaoError where
  /-- A value does not fit its column. -/
  | dataError
  | integrityError (pgcode : String)
  | noResultFound
deriving DecidableEq, Repr

/-- What the service publishes on the bus. -/
inductive TranscriptionNotification where
  | created (transcription : VoicemailTranscription)
  | deleted (transcription : VoicemailTranscription)
deriving DecidableEq

/-- The table and the bus. -/
structure TranscriptionState where
  table : TranscriptionTable
  published : List TranscriptionNotification := []

/-- `new_session` on the table. -/
def newTranscriptionSession {α : Type}
    (body : TranscriptionTable → Except TranscriptionDaoError (α × TranscriptionTable)) :
    Program TranscriptionState TranscriptionDaoError α :=
  transaction fun state => do
    let (a, table) ← body state.table
    return (a, { state with table })

namespace VoicemailTranscriptionDAO

open TranscriptionDaoError

def create (attributes : TranscriptionAttributes) :
    Program TranscriptionState TranscriptionDaoError VoicemailTranscription :=
  newTranscriptionSession fun table =>
    if ¬attributes.Fits then .error dataError
    else if hmessageId : attributes.messageId ∈ table.rows.map (·.attributes.messageId) then
      .error (integrityError "23505")
    else if htenant : attributes.tenantUuid ∈ table.tenants then
      .ok (⟨table.nextUuid, attributes⟩, table.insert attributes hmessageId htenant)
    else .error (integrityError "23503")

def update (uuid : ℕ) (attributes : TranscriptionAttributes) :
    Program TranscriptionState TranscriptionDaoError VoicemailTranscription :=
  newTranscriptionSession fun table =>
    if uuid ∉ table.rows.map (·.uuid) then .error noResultFound
    else if ¬attributes.Fits then .error dataError
    else if hmessageId : ∀ row ∈ table.rows, row.uuid ≠ uuid →
        row.attributes.messageId ≠ attributes.messageId then
      if htenant : attributes.tenantUuid ∈ table.tenants then
        .ok (⟨uuid, attributes⟩, table.replace uuid attributes hmessageId htenant)
      else .error (integrityError "23503")
    else .error (integrityError "23505")

/-- The rows of a message, of some tenants. -/
def ofMessage (messageId : String) (tenantUuids : Option (List String))
    (row : VoicemailTranscription) : Bool :=
  row.attributes.messageId = messageId &&
    tenantUuids.all fun tenantUuids => row.attributes.tenantUuid ∈ tenantUuids

def getByMessageId (messageId : String) (tenantUuids : Option (List String)) :
    Program TranscriptionState TranscriptionDaoError (Option VoicemailTranscription) :=
  newTranscriptionSession fun table =>
    .ok (table.rows.find? (ofMessage messageId tenantUuids), table)

def deleteByMessageId (messageId : String) (tenantUuids : Option (List String)) :
    Program TranscriptionState TranscriptionDaoError Bool :=
  newTranscriptionSession fun table =>
    .ok (table.rows.any (ofMessage messageId tenantUuids),
      table.filterRows fun row => !ofMessage messageId tenantUuids row)

end VoicemailTranscriptionDAO

end CallLogd
