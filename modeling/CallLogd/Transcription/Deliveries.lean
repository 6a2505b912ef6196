/-
What is stored of the transcriptions after a sequence of deliveries.

The last event of a message decides. The handler remembers nothing of the messages that
were deleted, so a transcription that is completed after the deletion of its message is
stored.
-/
import CallLogd.Lib.LastWrite
import CallLogd.Transcription.Service

namespace CallLogd

open LastWrite TranscriptionEventHandler

namespace TranscriptionEvent

/-- What an event is to the map of the stored transcriptions. -/
def write : TranscriptionEvent → Write String TranscriptionAttributes
  | transcriptionCompleted attributes => .put attributes.messageId attributes
  | voicemailMessageDeleted messageId => .erase messageId

/-- The transcription that an event completes. -/
def completed : TranscriptionEvent → Option TranscriptionAttributes
  | transcriptionCompleted attributes => some attributes
  | voicemailMessageDeleted _ => none

@[simp] lemma key_write (event : TranscriptionEvent) : event.write.key = event.messageId := by
  cases event <;> rfl

end TranscriptionEvent

open TranscriptionEvent

/-! ### One event -/

section Step

variable {state : TranscriptionState} {event : TranscriptionEvent}
  {attributes : TranscriptionAttributes} {messageId : String}

lemma tenants_handleEvent : (handleEvent state event).table.tenants = state.table.tenants := by
  cases event with
  | transcriptionCompleted attributes =>
    rw [handleEvent]
    by_cases h : state.table.Accepts attributes
    · obtain ⟨uuid, table, hrun, -, htenants⟩ := run_createTranscription_of_accepts h
      rw [hrun]
      exact htenants
    · rw [run_createTranscription_of_not_accepts h]
  | voicemailMessageDeleted messageId =>
    obtain ⟨table, hrun, -, htenants⟩ := run_deleteTranscription state messageId
    rw [handleEvent, hrun, htenants]

lemma contents_handleEvent_deleted :
    (handleEvent state (voicemailMessageDeleted messageId)).table.contents =
      apply state.table.contents (voicemailMessageDeleted messageId).write := by
  obtain ⟨table, hrun, hcontents, -⟩ := run_deleteTranscription state messageId
  rw [handleEvent, hrun, hcontents]
  rfl

lemma contents_handleEvent_of_accepts (h : state.table.Accepts attributes) :
    (handleEvent state (transcriptionCompleted attributes)).table.contents =
      apply state.table.contents (transcriptionCompleted attributes).write := by
  obtain ⟨uuid, table, hrun, hcontents, -⟩ := run_createTranscription_of_accepts h
  rw [handleEvent, hrun, hcontents]
  rfl

/-- An event says nothing of the other messages. -/
lemma contents_handleEvent_of_ne (h : event.messageId ≠ messageId) :
    (handleEvent state event).table.contents messageId = state.table.contents messageId := by
  have hother : ∀ m : String → Option TranscriptionAttributes,
      apply m event.write messageId = m messageId := fun m => by
    rw [LastWrite.apply, key_write, Function.update_of_ne (Ne.symm h)]
  cases event with
  | transcriptionCompleted attributes =>
    by_cases haccepts : state.table.Accepts attributes
    · rw [contents_handleEvent_of_accepts haccepts, hother]
    · rw [handleEvent, run_createTranscription_of_not_accepts haccepts]
  | voicemailMessageDeleted => rw [contents_handleEvent_deleted, hother]

end Step

/-! ### Sequences of events -/

def completions (events : List TranscriptionEvent) : List TranscriptionAttributes :=
  events.filterMap completed

/-- Each message is of one tenant. -/
def OfOneTenant (events : List TranscriptionEvent) : Prop :=
  ∀ attributes ∈ completions events, ∀ attributes' ∈ completions events,
    attributes.messageId = attributes'.messageId → attributes.tenantUuid = attributes'.tenantUuid

instance (events : List TranscriptionEvent) : Decidable (OfOneTenant events) :=
  inferInstanceAs (Decidable (∀ _ ∈ _, ∀ _ ∈ _, _))

/-- The table can hold the transcriptions that are completed. -/
def Storable (tenants : Finset String) (events : List TranscriptionEvent) : Prop :=
  ∀ attributes ∈ completions events, attributes.Fits ∧ attributes.tenantUuid ∈ tenants

instance (tenants : Finset String) (events : List TranscriptionEvent) :
    Decidable (Storable tenants events) :=
  inferInstanceAs (Decidable (∀ _ ∈ _, _ ∧ _))

/-- The transcription that is left of a message: the last event is its completion. -/
def remaining (events : List TranscriptionEvent) (messageId : String) :
    Option TranscriptionAttributes :=
  match (events.filter fun event => event.messageId = messageId).getLast? with
  | some (transcriptionCompleted attributes) => some attributes
  | _ => none

/-- No transcription is stored. -/
def TranscriptionState.initial (tenants : Finset String) : TranscriptionState where
  table :=
    { tenants
      tenant_mem := fun _ h => absurd h List.not_mem_nil }

section Sequences

variable {tenants : Finset String} {events : List TranscriptionEvent} {messageId : String}

lemma completed_mem_completions {attributes : TranscriptionAttributes}
    (h : transcriptionCompleted attributes ∈ events) : attributes ∈ completions events :=
  List.mem_filterMap.2 ⟨_, h, rfl⟩

lemma remaining_eq_run :
    remaining events messageId = run (fun _ => none) (events.map write) messageId := by
  have hfilter : (events.map write).filter (fun w => w.key = messageId) =
      (events.filter fun event => event.messageId = messageId).map write := by
    rw [List.filter_map]
    simp only [Function.comp_def, key_write]
  rw [run_apply, lastWrite, hfilter, List.getLast?_map, remaining]
  cases (events.filter fun event => event.messageId = messageId).getLast? with
  | none => rfl
  | some event => cases event <;> rfl

lemma mem_of_remaining {attributes : TranscriptionAttributes}
    (h : remaining events messageId = some attributes) :
    attributes ∈ completions events ∧ attributes.messageId = messageId := by
  unfold remaining at h
  split at h
  case h_1 found hlast =>
    obtain rfl := Option.some.inj h
    have hmem := List.mem_filter.1 (List.mem_of_getLast? hlast)
    exact ⟨completed_mem_completions hmem.1, of_decide_eq_true hmem.2⟩
  case h_2 => exact absurd h.symm (Option.some_ne_none _)

lemma tenants_handleAll {state : TranscriptionState} :
    (handleAll state events).table.tenants = state.table.tenants := by
  induction events generalizing state with
  | nil => rfl
  | cons event events ih => exact ih.trans tenants_handleEvent

lemma handleAll_concat {state : TranscriptionState} {event : TranscriptionEvent} :
    handleAll state (events ++ [event]) = handleEvent (handleAll state events) event := by
  simp [handleAll]

/-- The table is the map of the last events. -/
lemma contents_handleAll (hone : OfOneTenant events) (hstorable : Storable tenants events) :
    (handleAll (.initial tenants) events).table.contents =
      run (fun _ => none) (events.map write) := by
  induction events using List.reverseRecOn with
  | nil => rfl
  | append_singleton events event ih =>
    have hsub : completions events ⊆ completions (events ++ [event]) :=
      List.filterMap_subset _ (List.subset_append_left _ _)
    have hbefore := ih (fun a ha a' ha' => hone a (hsub ha) a' (hsub ha'))
      fun a ha => hstorable a (hsub ha)
    rw [handleAll_concat, List.map_append, List.map_singleton, run_concat, ← hbefore]
    cases event with
    | voicemailMessageDeleted => exact contents_handleEvent_deleted
    | transcriptionCompleted attributes =>
      have hlast : attributes ∈ completions (events ++ [transcriptionCompleted attributes]) :=
        completed_mem_completions (List.mem_append_right events (List.mem_singleton_self _))
      obtain ⟨hfits, htenant⟩ := hstorable attributes hlast
      refine contents_handleEvent_of_accepts ⟨hfits, ?_, fun old hold => ?_⟩
      · rw [tenants_handleAll]
        exact htenant
      · -- what is stored of the message is of an earlier event of it
        rw [Option.mem_def, hbefore, ← remaining_eq_run] at hold
        obtain ⟨hmem, hid⟩ := mem_of_remaining hold
        exact hone _ (hsub hmem) _ hlast hid

/-- The stored transcriptions after a sequence of events, and the message of another tenant. -/
theorem transcriptions_stored (tenants : Finset String) :
    (∀ events, OfOneTenant events → Storable tenants events →
      ((handleAll (.initial tenants) events).table.rows.map (·.attributes.messageId)).Nodup ∧
        ∀ messageId attributes,
          (∃ row ∈ (handleAll (.initial tenants) events).table.rows,
            row.attributes.messageId = messageId ∧ row.attributes = attributes) ↔
          remaining events messageId = some attributes) ∧
    ∀ (state : TranscriptionState) (attributes : TranscriptionAttributes),
      (∃ row ∈ state.table.rows, row.attributes.messageId = attributes.messageId ∧
        row.attributes.tenantUuid ≠ attributes.tenantUuid) →
      Transactions.run (TranscriptionService.createTranscription attributes) state =
        (.error (.creationFailed attributes.messageId), state) := by
  constructor
  · intro events hone hstorable
    refine ⟨TranscriptionTable.messageId_nodup _, fun messageId attributes => ?_⟩
    rw [remaining_eq_run, ← contents_handleAll hone hstorable,
      TranscriptionTable.contents_eq_some_iff, List.mem_map]
    constructor
    · rintro ⟨row, hrow, hid, rfl⟩
      exact ⟨⟨row, hrow, rfl⟩, hid⟩
    · rintro ⟨⟨row, hrow, rfl⟩, hid⟩
      exact ⟨row, hrow, hid, rfl⟩
  · rintro state attributes ⟨row, hrow, hid, htenant⟩
    refine run_createTranscription_of_not_accepts fun haccepts => htenant ?_
    exact haccepts.2.2 row.attributes
      (TranscriptionTable.contents_eq_some_iff.2 ⟨List.mem_map_of_mem hrow, hid⟩)

/-- A completed transcription of a tenant, with the message of another. -/
def greeting (tenantUuid text : String) : TranscriptionAttributes where
  messageId := "1479393209-00000001"
  tenantUuid
  transcriptionText := text

theorem transcriptions_stored_again :
    ∃ row ∈ (handleAll (.initial {"54eb71f8"})
        [.transcriptionCompleted (greeting "54eb71f8" "Hello"),
        .voicemailMessageDeleted "1479393209-00000001",
        .transcriptionCompleted (greeting "54eb71f8" "Hello again")]).table.rows,
      row.attributes.messageId = "1479393209-00000001" ∧
        row.attributes = greeting "54eb71f8" "Hello again" :=
  (((transcriptions_stored {"54eb71f8"}).1 _ (by decide) (by decide)).2 _ _).2 rfl

/-- The transcription of a tenant that the service does not know is lost. -/
theorem unknownTenant_not_stored :
    OfOneTenant [.transcriptionCompleted (greeting "54eb71f8" "Hello")] ∧
      remaining [.transcriptionCompleted (greeting "54eb71f8" "Hello")] "1479393209-00000001" =
        some (greeting "54eb71f8" "Hello") ∧
      (handleAll (.initial ∅)
        [.transcriptionCompleted (greeting "54eb71f8" "Hello")]).table.rows = [] := by
  decide

/-- Nothing is stored of a deleted message, unless it is completed afterwards. -/
theorem deleted_not_stored (state : TranscriptionState) (before after : List TranscriptionEvent)
    (messageId : String)
    (hafter : ∀ attributes ∈ completions after, attributes.messageId ≠ messageId) :
    ∀ row ∈ (handleAll state
        (before ++ voicemailMessageDeleted messageId :: after)).table.rows,
      row.attributes.messageId ≠ messageId := by
  have hnone : (handleAll state
      (before ++ voicemailMessageDeleted messageId :: after)).table.contents messageId = none := by
    induction after using List.reverseRecOn with
    | nil =>
      rw [handleAll_concat, contents_handleEvent_deleted]
      exact Function.update_self _ _ _
    | append_singleton after event ih =>
      have hbefore := ih fun attributes h => hafter attributes
        (List.filterMap_subset _ (List.subset_append_left _ _) h)
      rw [← List.cons_append, ← List.append_assoc, handleAll_concat]
      by_cases h : event.messageId = messageId
      · cases event with
        | transcriptionCompleted attributes =>
          have hlast : attributes ∈ completions (after ++ [transcriptionCompleted attributes]) :=
            completed_mem_completions (List.mem_append_right after (List.mem_singleton_self _))
          exact absurd h (hafter attributes hlast)
        | voicemailMessageDeleted deleted =>
          obtain rfl : deleted = messageId := h
          rw [contents_handleEvent_deleted]
          exact Function.update_self _ _ _
      · rw [contents_handleEvent_of_ne h, hbefore]
  intro row hrow hid
  exact TranscriptionTable.contents_eq_none_iff.1 hnone (List.mem_map.2 ⟨row, hrow, hid⟩)

theorem deleted_not_stored_twice : (handleAll (.initial {"54eb71f8"})
      ([.transcriptionCompleted (greeting "54eb71f8" "Hello")] ++
        .voicemailMessageDeleted "1479393209-00000001" ::
          [.voicemailMessageDeleted "1479393209-00000001"])).table.rows.all
    (fun row => row.attributes.messageId ≠ "1479393209-00000001") := by
  refine List.all_eq_true.2 fun row hrow => decide_eq_true ?_
  exact deleted_not_stored _ _ _ _ (by decide) row hrow

/-- The completion that arrives after the deletion. -/
theorem lateCompletion_stored : ∃ row ∈ (handleAll (.initial {"54eb71f8"})
      [.voicemailMessageDeleted "1479393209-00000001",
        .transcriptionCompleted (greeting "54eb71f8" "Hello")]).table.rows,
    row.attributes.messageId = "1479393209-00000001" := by
  decide

end Sequences

end CallLogd
