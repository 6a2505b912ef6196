/-
The pauses of the recordings: `_remove_incomplete_recordings` and
`_handle_recording_pauses`.

A recording that is paused and resumed leaves one segment for each of its parts, with the
same uuid.  The merge keeps the first segment of each uuid and gives it the end of the
last one; it goes through a table whose entries are the segments themselves, changed in
place (`handleRecordingPausesInPlace_eq`).
-/
import CallLogd.Generation.Calls
import CallLogd.Lib.Merging

namespace CallLogd

open CallLogsGenerator Sequences

/-- A recording has a start and an end. -/
def Recording.Complete (recording : Recording) : Prop :=
  recording.startTime ≠ none ∧ recording.endTime ≠ none

instance : DecidablePred Recording.Complete := fun _ => inferInstanceAs (Decidable (_ ∧ _))

/-- The complete ones of some recordings. -/
def completeRecordings (recordings : List Recording) : List Recording :=
  recordings.filter fun recording => recording.Complete

lemma mem_completeRecordings {recordings : List Recording} {recording : Recording} :
    recording ∈ completeRecordings recordings ↔ recording ∈ recordings ∧ recording.Complete := by
  rw [completeRecordings, List.mem_filter, decide_eq_true_iff]

/-- The complete segments of a uuid, in order. -/
def segmentsOf (uuid : Option RecordingUuid) (recordings : List Recording) : List Recording :=
  (completeRecordings recordings).filter fun recording => recording.uuid = uuid

/-- The recordings have uuids, and the complete ones are in the order of their starts and
do not end before they start. -/
structure RecordedInOrder (recordings : List Recording) : Prop where
  identified : ∀ recording ∈ recordings, recording.uuid ≠ none
  startsInOrder : (completeRecordings recordings).Pairwise fun recording recording' =>
    ∀ start ∈ recording.startTime, ∀ start' ∈ recording'.startTime, start ≤ start'
  startBeforeEnd : ∀ recording ∈ completeRecordings recordings,
    ∀ start ∈ recording.startTime, ∀ stop ∈ recording.endTime, start ≤ stop

/-- The recordings that the two passes leave in a call. -/
def withoutPauses (call : RawCallLog) : List Recording :=
  (handleRecordingPauses (removeIncompleteRecordings call)).recordings

/-- The pauses of the recordings of a call are merged. -/
structure PausesMerged (call : RawCallLog) : Prop where
  distinct : ((withoutPauses call).map (·.uuid)).Nodup
  complete : ∀ recording ∈ withoutPauses call, recording.uuid ≠ none ∧ recording.Complete
  /-- The uuids are those of the complete segments, in the order in which they appear first. -/
  inOrder : (withoutPauses call).map (·.uuid) =
    (uniqueBy (·.uuid) (completeRecordings call.recordings)).map (·.uuid)
  /-- The uuid of a complete segment has one recording, from the start of its first segment
  to the end of its last one. -/
  span : ∀ segment ∈ completeRecordings call.recordings,
    ∃ first ∈ (segmentsOf segment.uuid call.recordings).head?,
    ∃ last ∈ (segmentsOf segment.uuid call.recordings).getLast?,
    ∃ recording, (withoutPauses call).filter (fun r => r.uuid = segment.uuid) = [recording] ∧
      recording.startTime = first.startTime ∧ recording.endTime = last.endTime
  startBeforeEnd : ∀ recording ∈ withoutPauses call,
    ∀ start ∈ recording.startTime, ∀ stop ∈ recording.endTime, start ≤ stop
  /-- What is left of a uuid is what is left of its own segments alone. -/
  undisturbed : ∀ uuid, (withoutPauses call).filter (fun r => r.uuid = uuid) =
    withoutPauses { call with recordings := call.recordings.filter fun r => r.uuid = uuid }

/-! ### The merge -/

/-- A recording that is resumed gets the end of the later segment. -/
def Recording.resumedBy (recording segment : Recording) : Recording :=
  { recording with endTime := segment.endTime }

section Merge

variable {recordings segments : List Recording} {recording first last : Recording}
  {uuid : Option RecordingUuid}

lemma foldl_seeRecording_eq :
    recordings.foldl seeRecording [] = Merging.table (·.uuid) Recording.resumedBy recordings := rfl

lemma foldl_resumedBy : segments.foldl Recording.resumedBy recording =
    { recording with endTime := (segments.getLast?.map (·.endTime)).getD recording.endTime } := by
  induction segments using List.reverseRecOn with
  | nil => rfl
  | append_singleton segments segment ih =>
      rw [List.foldl_concat, ih, List.getLast?_concat]
      rfl

/-- A merged recording starts as its first segment and ends as its last one. -/
lemma entry_eq (hlast : last ∈ (recordings.filter fun r => r.uuid = first.uuid).getLast?) :
    Merging.entry (·.uuid) Recording.resumedBy recordings first =
      { first with endTime := last.endTime } := by
  have hlast : (recordings.filter fun r => r.uuid = first.uuid).getLast? = some last := hlast
  rw [Merging.entry, foldl_resumedBy, hlast]
  rfl

lemma uuid_entry : (Merging.entry (·.uuid) Recording.resumedBy recordings first).uuid =
    first.uuid := by
  rw [Merging.entry, foldl_resumedBy]

/-- The merge changes the ends of the first segments only. -/
lemma mergePauses_eq : mergePauses recordings = (uniqueBy (·.uuid) recordings).map
    (Merging.entry (·.uuid) Recording.resumedBy recordings) := by
  rw [mergePauses, foldl_seeRecording_eq, Merging.table_eq, List.map_map]
  rfl

lemma map_uuid_mergePauses : (mergePauses recordings).map (·.uuid) =
    (uniqueBy (·.uuid) recordings).map (·.uuid) := by
  rw [mergePauses_eq, List.map_map]
  exact List.map_congr_left fun _ _ => uuid_entry

lemma filter_mergePauses (uuid : Option RecordingUuid) :
    (mergePauses recordings).filter (fun r => r.uuid = uuid) =
      (recordings.filter fun r => r.uuid = uuid).head?.toList.map
        (Merging.entry (·.uuid) Recording.resumedBy recordings) := by
  rw [mergePauses_eq, List.filter_map, ← filter_uniqueBy]
  refine congrArg _ (List.filter_congr fun first _ => ?_)
  rw [Function.comp_apply, uuid_entry]

/-- A merged recording is found under its own uuid. -/
lemma uuid_of_mem_foldl_seeRecording {p : Option RecordingUuid × Recording}
    (hp : p ∈ recordings.foldl seeRecording []) : p.2.uuid = p.1 := by
  rw [foldl_seeRecording_eq, Merging.table_eq] at hp
  obtain ⟨first, -, rfl⟩ := List.mem_map.1 hp
  exact uuid_entry

/-- The segments of the other uuids have no effect. -/
lemma filter_mergePauses_eq (uuid : Option RecordingUuid) :
    (mergePauses recordings).filter (fun r => r.uuid = uuid) =
      mergePauses (recordings.filter fun r => r.uuid = uuid) := by
  rw [mergePauses, mergePauses, foldl_seeRecording_eq, foldl_seeRecording_eq,
    ← Merging.filter_table, List.filter_map]
  refine congrArg _ (List.filter_congr fun p hp => ?_)
  rw [Function.comp_apply, uuid_of_mem_foldl_seeRecording hp]

/-- A merged recording has a first and a last segment. -/
lemma exists_span_of_mem_mergePauses (h : recording ∈ mergePauses recordings) :
    ∃ first ∈ (recordings.filter fun r => r.uuid = recording.uuid).head?,
      ∃ last ∈ (recordings.filter fun r => r.uuid = recording.uuid).getLast?,
        recording = { first with endTime := last.endTime } := by
  have hmem : recording ∈ (mergePauses recordings).filter fun r => r.uuid = recording.uuid :=
    List.mem_filter.2 ⟨h, decide_eq_true rfl⟩
  rw [filter_mergePauses] at hmem
  obtain ⟨first, hfirst, rfl⟩ := List.mem_map.1 hmem
  rw [Option.mem_toList] at hfirst
  rw [uuid_entry] at hfirst ⊢
  have hne : (recordings.filter fun r => r.uuid = first.uuid) ≠ [] :=
    List.ne_nil_of_mem (List.mem_of_mem_head? hfirst)
  exact ⟨first, hfirst, _, List.getLast?_eq_some_getLast hne,
    entry_eq (List.getLast?_eq_some_getLast hne)⟩

end Merge

/-! ### In place -/

/-- The loop of `_handle_recording_pauses` over the recordings themselves, told apart by
their places in the list: the one that was seen with the uuid is changed in place. -/
def handleRecordingPausesInPlace (recordings : List Recording) : List Recording :=
  (Merging.run (·.uuid) Recording.resumedBy (fun n => recordings.getD n {})
    (List.range recordings.length)).contents.map Prod.snd

theorem handleRecordingPausesInPlace_eq (recordings : List Recording) :
    handleRecordingPausesInPlace recordings = mergePauses recordings := by
  have hread : (List.range recordings.length).map (fun n => recordings.getD n {}) = recordings := by
    refine List.ext_getElem (by simp) fun n hn hn' => ?_
    simp [hn']
  rw [handleRecordingPausesInPlace, Merging.contents_run (fun _ => rfl) List.nodup_range, hread]
  rfl

/-! ### The two passes -/

section Passes

variable {call : RawCallLog} {recordings : List Recording} {recording first last : Recording}

lemma withoutPauses_eq (call : RawCallLog) :
    withoutPauses call = mergePauses (completeRecordings call.recordings) := rfl

/-- The recordings of a call log are those without pauses, if the call was answered. -/
lemma finishRecordings_eq (call : RawCallLog) :
    finishRecordings call = if callWasAnswered call then withoutPauses call else [] := by
  have hanswered : callWasAnswered (removeIncompleteRecordings call) = callWasAnswered call := rfl
  rw [finishRecordings, removeRecordingsForUnansweredCalls, hanswered]
  split <;> rfl

/-- The first segment of a uuid starts before the last one. -/
lemma RecordedInOrder.start_le (h : RecordedInOrder recordings) {uuid : Option RecordingUuid}
    (hfirst : first ∈ (segmentsOf uuid recordings).head?)
    (hlast : last ∈ (segmentsOf uuid recordings).getLast?) :
    ∀ start ∈ first.startTime, ∀ start' ∈ last.startTime, start ≤ start' := by
  have hstarts := h.startsInOrder.sublist
    (List.filter_sublist (p := fun r : Recording => decide (r.uuid = uuid)))
  obtain ⟨rest, hsegments⟩ := List.head?_eq_some_iff.1 hfirst
  change (segmentsOf uuid recordings).Pairwise _ at hstarts
  rw [hsegments] at hstarts hlast
  rcases List.mem_cons.1 (List.mem_of_getLast? hlast) with rfl | hmem
  · intro start hstart start' hstart'
    rw [Option.mem_unique hstart hstart']
  · exact (List.pairwise_cons.1 hstarts).1 last hmem

/-- A uuid with a complete segment has one recording. -/
lemma filter_withoutPauses {segment : Recording}
    (h : segment ∈ completeRecordings call.recordings) :
    ∃ first ∈ (segmentsOf segment.uuid call.recordings).head?,
    ∃ last ∈ (segmentsOf segment.uuid call.recordings).getLast?,
      (withoutPauses call).filter (fun r => r.uuid = segment.uuid) =
        [{ first with endTime := last.endTime }] := by
  have hmem : segment ∈ segmentsOf segment.uuid call.recordings :=
    List.mem_filter.2 ⟨h, decide_eq_true rfl⟩
  have hne := List.ne_nil_of_mem hmem
  have hfirst := List.head?_eq_some_head hne
  have hlast := List.getLast?_eq_some_getLast hne
  refine ⟨_, hfirst, _, hlast, ?_⟩
  have huuid := of_decide_eq_true (List.mem_filter.1 (List.head_mem hne)).2
  rw [withoutPauses_eq, filter_mergePauses, ← segmentsOf, hfirst]
  refine congrArg (fun r => [r]) (entry_eq ?_)
  rw [huuid]
  exact hlast

/-- The passes merge the segments of each uuid, whatever is recorded in between. -/
theorem pausesMerged_of_recordedInOrder (call : RawCallLog)
    (h : RecordedInOrder call.recordings) : PausesMerged call where
  distinct := by
    rw [withoutPauses_eq, map_uuid_mergePauses]
    exact nodup_map_uniqueBy _ _
  complete recording hmem := by
    obtain ⟨first, hfirst, last, hlast, heq⟩ := exists_span_of_mem_mergePauses hmem
    obtain ⟨hfirst, hstart, -⟩ := mem_completeRecordings.1
      (List.mem_of_mem_filter (List.mem_of_mem_head? hfirst))
    obtain ⟨-, -, hend⟩ := mem_completeRecordings.1
      (List.mem_of_mem_filter (List.mem_of_getLast? hlast))
    rw [heq]
    exact ⟨h.identified first hfirst, hstart, hend⟩
  inOrder := map_uuid_mergePauses
  span segment hsegment := by
    obtain ⟨first, hfirst, last, hlast, hfilter⟩ := filter_withoutPauses hsegment
    exact ⟨first, hfirst, last, hlast, _, hfilter, rfl, rfl⟩
  startBeforeEnd recording hmem start hstart stop hstop := by
    obtain ⟨first, hfirst, last, hlast, heq⟩ := exists_span_of_mem_mergePauses hmem
    have hcomplete := List.mem_of_mem_filter (List.mem_of_getLast? hlast)
    obtain ⟨start', hstart'⟩ := Option.ne_none_iff_exists'.1
      (mem_completeRecordings.1 hcomplete).2.1
    rw [heq] at hstart hstop
    exact (h.start_le hfirst hlast start hstart start' hstart').trans
      (h.startBeforeEnd last hcomplete start' hstart' stop hstop)
  undisturbed uuid := by
    rw [withoutPauses_eq, withoutPauses_eq, filter_mergePauses_eq]
    refine congrArg mergePauses ?_
    simp only [completeRecordings, List.filter_filter, Bool.and_comm]

/-- A recording is paused twice.  Another one starts during the first pause, and a third one
has no end. -/
def pausedTwice : RawCallLog :=
  { recordings :=
      [{ uuid := some (.ofPath "a"), startTime := some 1, endTime := some 2 },
       { uuid := some (.ofPath "b"), startTime := some 3, endTime := some 9 },
       { uuid := some (.ofPath "a"), startTime := some 4, endTime := some 5 },
       { uuid := some (.uuid4 0), startTime := some 6 },
       { uuid := some (.ofPath "a"), startTime := some 7, endTime := some 8 },
       { uuid := some (.ofPath "b"), endTime := some 9 }] }

theorem pausesMerged_pausedTwice : PausesMerged pausedTwice :=
  pausesMerged_of_recordedInOrder pausedTwice ⟨by decide, by decide, by decide⟩

example : (withoutPauses pausedTwice).map (fun r => (r.uuid, r.startTime, r.endTime)) =
    [(some (.ofPath "a"), some 1, some 8), (some (.ofPath "b"), some 3, some 9)] := by
  decide

end Passes

end CallLogd
