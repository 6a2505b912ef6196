/-
The recording keys of a batch.

The uuids of the recordings of one call log are distinct by the merge of the pauses.
Across the call logs of a batch the random uuids are distinct by their numbers, so
what is left are the uuids that the paths of the files contain: they are distinct if
no two groups keep a recording of the same uuid.
-/
import CallLogd.Generation.Recordings

namespace CallLogd

open CallLogsGenerator Results Sequences

/-- The uuids of the recordings of a call log; the database draws those that are
missing. -/
def recordingUuids (log : CallLog) : List RecordingUuid := log.recordings.filterMap (·.uuid)

/-- The recordings of some call logs can be inserted together. -/
def DistinctRecordingKeys (logs : List CallLog) : Prop := (logs.flatMap recordingUuids).Nodup

instance (logs : List CallLog) : Decidable (DistinctRecordingKeys logs) :=
  inferInstanceAs (Decidable (List.Nodup _))

/-- A segment was stopped, or its channel ended. -/
def Segment.Ended (segment : Segment) : Prop := segment.stops ≠ [] ∨ segment.ends ≠ []

/-- A group of CELs is a valid call that was answered. -/
structure CallLogsGenerator.AnsweredCall (gen : CallLogsGenerator)
    (group : Finset String × List CEL) : Prop where
  /-- All its linkedids have ended, and nothing makes its call log invalid. -/
  valid : (gen.logOfGroup group).isSome
  answered : ∃ call, gen.interpretCall group.1 group.2 = .ok call ∧ callWasAnswered call

/-- A group is an answered call in which a file with a uuid in its path was recorded to
an end. -/
def CallLogsGenerator.Records (gen : CallLogsGenerator) (group : Finset String × List CEL)
    (uuid : String) : Prop :=
  gen.AnsweredCall group ∧ ∃ segment ∈ (getInterpretor group.2).segments gen.externals group.2,
    segment.Ended ∧ segment.uuid = some (.ofPath uuid)

/-! ### The uuids of one call log -/

section Merge

variable {recordings : List Recording} {uuid : RecordingUuid}

lemma mem_map_uuid_mergePauses {uuid : Option RecordingUuid} :
    uuid ∈ (mergePauses recordings).map (·.uuid) ↔ uuid ∈ recordings.map (·.uuid) := by
  rw [map_uuid_mergePauses]
  exact mem_map_uniqueBy

lemma nodup_filterMap_uuid_mergePauses : ((mergePauses recordings).filterMap (·.uuid)).Nodup := by
  have hnodup : ((mergePauses recordings).map (·.uuid)).Nodup :=
    map_uuid_mergePauses ▸ nodup_map_uniqueBy _ _
  have hmap : (mergePauses recordings).filterMap (·.uuid) =
      ((mergePauses recordings).map (·.uuid)).filterMap id := by
    rw [List.filterMap_map]
    rfl
  rw [hmap]
  refine hnodup.filterMap fun a a' b hb hb' => ?_
  rw [show a = some b from hb, show a' = some b from hb']

lemma mem_filterMap_uuid_mergePauses :
    uuid ∈ (mergePauses recordings).filterMap (·.uuid) ↔
      ∃ recording ∈ recordings, recording.uuid = some uuid := by
  have hmem : some uuid ∈ (mergePauses recordings).map (·.uuid) ↔
      some uuid ∈ recordings.map (·.uuid) :=
    mem_map_uuid_mergePauses
  rw [List.mem_map, List.mem_map] at hmem
  rw [List.mem_filterMap]
  exact hmem

end Merge

lemma Segment.ended_iff {segment : Segment} :
    segment.Ended ↔ segment.recording.endTime ≠ none := by
  rw [Segment.Ended, Segment.recording]
  simp only [ne_eq, Option.or_eq_none_iff, List.getLast?_eq_none_iff, List.max?_eq_none_iff,
    not_and_or]

section Call

variable {gen : CallLogsGenerator} {group : Finset String × List CEL} {log : CallLog}
  {uuid : RecordingUuid}

/-- The uuids of a call log are those of the segments that an answered call has seen
to their end. -/
lemma mem_recordingUuids_logOfGroup (hlog : gen.logOfGroup group = some log) :
    uuid ∈ recordingUuids log ↔ gen.AnsweredCall group ∧
      ∃ segment ∈ (getInterpretor group.2).segments gen.externals group.2,
        segment.Ended ∧ segment.uuid = some uuid := by
  have hvalid : (gen.logOfGroup group).isSome := Option.isSome_of_eq_some hlog
  obtain ⟨-, call, voicemail, hcall, hfinish⟩ := finishCall_of_logOfGroup hlog
  have hanswered : gen.AnsweredCall group ↔ callWasAnswered call := by
    refine ⟨fun h => ?_, fun h => ⟨hvalid, call, hcall, h⟩⟩
    obtain ⟨call', hcall', h⟩ := h.answered
    rwa [Except.ok.inj (hcall.symm.trans hcall')]
  rw [recordingUuids, recordings_of_finishCall hcall hfinish, hanswered]
  by_cases h : callWasAnswered call = true
  · rw [if_pos h, mem_filterMap_uuid_mergePauses]
    simp only [h, true_and, mem_completeRecordings, List.mem_map]
    constructor
    · rintro ⟨_, ⟨⟨segment, hsegment, rfl⟩, -, hend⟩, huuid⟩
      exact ⟨segment, hsegment, Segment.ended_iff.2 hend, huuid⟩
    · rintro ⟨segment, hsegment, hended, huuid⟩
      exact ⟨_, ⟨⟨segment, hsegment, rfl⟩, Option.some_ne_none _, Segment.ended_iff.1 hended⟩,
        huuid⟩
  · simp [h]

/-- The uuids of one call log are distinct. -/
lemma nodup_recordingUuids (hlog : gen.logOfGroup group = some log) :
    (recordingUuids log).Nodup := by
  obtain ⟨-, call, voicemail, -, hfinish⟩ := finishCall_of_logOfGroup hlog
  rw [recordingUuids, (finishCall_eq_ok hfinish).2, finishRecordings]
  exact nodup_filterMap_uuid_mergePauses

end Call

/-! ### Random uuids -/

section Uuid4

variable {x : Externals} {calleeCels cels : List CEL} {segment : Segment} {n k : ℕ}

/-- Only a path that is a text gives a uuid. -/
lemma exists_path_of_newCallerRecording (cel : CEL) {path : Json} (mixmonitorId : Json)
    {uuid : RecordingUuid} (h : (newCallerRecording n cel path mixmonitorId).uuid = some uuid) :
    ∃ filename, path = .str filename := by
  cases path with
  | str filename => exact ⟨filename, rfl⟩
  | _ => cases h

lemma exists_path_of_newCalleeRecording (cel : CEL) {path : Json} (mixmonitorId : Json)
    {uuid : RecordingUuid} (h : (newCalleeRecording cel path mixmonitorId).uuid = some uuid) :
    ∃ filename, path = .str filename := by
  cases path with
  | str filename => exact ⟨filename, rfl⟩
  | _ => cases h

/-- The draws of the caller's side are numbered by its recordings. -/
lemma uuid4_of_mem_callerSegments (hsegment : segment ∈ callerSegments x calleeCels n cels)
    (huuid : segment.uuid = some (.uuid4 k)) : k < n + cels.length := by
  obtain ⟨cel, later, path, mixmonitorId, -, -, m, hm, rfl⟩ :=
    exists_of_mem_callerSegments hsegment
  obtain ⟨filename, rfl⟩ := exists_path_of_newCallerRecording cel mixmonitorId huuid
  have hcaller : callerUuid m filename = .uuid4 k := Option.some.inj huuid
  obtain ⟨rfl, -⟩ := callerUuid_eq_uuid4.1 hcaller
  exact hm

lemma uuid_ne_uuid4_of_mem_calleeSegments (hsegment : segment ∈ calleeSegments x cels) :
    segment.uuid ≠ some (.uuid4 k) := by
  obtain ⟨cel, later, path, mixmonitorId, -, -, rfl⟩ := exists_of_mem_calleeSegments hsegment
  intro huuid
  obtain ⟨filename, rfl⟩ := exists_path_of_newCalleeRecording cel mixmonitorId huuid
  exact calleeUuid_ne_uuid4 huuid

/-- A recording of an originated call has no uuid of its own. -/
lemma uuid_of_mem_localSegments (hsegment : segment ∈ localSegments x cels) :
    segment.uuid = none := by
  rw [localSegments] at hsegment
  split at hsegment
  · cases hsegment
  · obtain ⟨cel, -, hcel⟩ := List.mem_filterMap.1 hsegment
    obtain ⟨start, -, rfl⟩ := Option.map_eq_some_iff.1 hcel
    rfl

/-- The draws of a call are numbered below the number of its CELs. -/
lemma uuid4_of_mem_segments {interpretor : CELInterpretor}
    (hsegment : segment ∈ interpretor.segments x cels) (huuid : segment.uuid = some (.uuid4 k)) :
    k < cels.length := by
  cases interpretor with
  | localOriginate =>
      have hnone : segment.uuid = none := uuid_of_mem_localSegments hsegment
      cases hnone.symm.trans huuid
  | dispatch =>
      rcases List.mem_append.1 hsegment with hsegment | hsegment
      · have hk := uuid4_of_mem_callerSegments hsegment huuid
        have hlength := List.length_filter_le (fun cel : CEL =>
          decide ((DispatchCELInterpretor.chanStartUniqueids cels).head? = some cel.uniqueid)) cels
        exact (hk.trans_eq (Nat.zero_add _)).trans_le hlength
      · exact absurd huuid (uuid_ne_uuid4_of_mem_calleeSegments hsegment)

end Uuid4

/-! ### The uuids of a batch -/

section Batch

variable {gen : CallLogsGenerator} {group : Finset String × List CEL}
  {groups : List (Finset String × List CEL)} {uuid : String} {n k : ℕ}

lemma shiftUuid4_injective (n : ℕ) : Function.Injective (shiftUuid4 n) := by
  intro uuid uuid' h
  cases uuid <;> cases uuid' <;> simp_all [shiftUuid4]

lemma recordingUuids_shiftCallLog (log : CallLog) :
    recordingUuids (shiftCallLog n log) = (recordingUuids log).map (shiftUuid4 n) := by
  rw [recordingUuids, recordingUuids, shiftCallLog, List.filterMap_map, List.map_filterMap]
  rfl

variable (gen n group) in
/-- The uuids of a group whose draws are numbered from `n` on. -/
def uuidsOfGroup : List RecordingUuid :=
  ((gen.logOfGroup group).map (shiftCallLog n)).toList.flatMap recordingUuids

lemma uuidsOfGroup_none (h : gen.logOfGroup group = none) : uuidsOfGroup gen group n = [] := by
  rw [uuidsOfGroup, h]
  rfl

lemma uuidsOfGroup_some {log : CallLog} (h : gen.logOfGroup group = some log) :
    uuidsOfGroup gen group n = (recordingUuids log).map (shiftUuid4 n) := by
  rw [uuidsOfGroup, h, Option.map_some, Option.toList_some, List.flatMap_singleton,
    recordingUuids_shiftCallLog]

variable (gen n group) in
lemma nodup_uuidsOfGroup : (uuidsOfGroup gen group n).Nodup := by
  cases hlog : gen.logOfGroup group with
  | none => exact uuidsOfGroup_none hlog ▸ List.nodup_nil
  | some log =>
      rw [uuidsOfGroup_some hlog]
      exact (nodup_recordingUuids hlog).map (shiftUuid4_injective n)

/-- The path uuids of a group are those of the files that it records. -/
lemma ofPath_mem_uuidsOfGroup :
    .ofPath uuid ∈ uuidsOfGroup gen group n ↔ gen.Records group uuid := by
  cases hlog : gen.logOfGroup group with
  | none =>
      have hvalid : ¬ gen.Records group uuid := fun h => by
        have := h.1.valid
        simp [hlog] at this
      simp [uuidsOfGroup_none hlog, hvalid]
  | some log =>
      rw [uuidsOfGroup_some hlog, CallLogsGenerator.Records, ← mem_recordingUuids_logOfGroup hlog,
        List.mem_map]
      constructor
      · rintro ⟨uuid', hmem, heq⟩
        rwa [← shiftUuid4_injective n (heq.trans (rfl : _ = shiftUuid4 n (.ofPath uuid)))]
      · exact fun hmem => ⟨_, hmem, rfl⟩

/-- The random uuids of a group have the numbers that it is given. -/
lemma le_of_uuid4_mem_uuidsOfGroup (h : .uuid4 k ∈ uuidsOfGroup gen group n) :
    n ≤ k ∧ k < n + drawsOfGroup group := by
  cases hlog : gen.logOfGroup group with
  | none =>
      rw [uuidsOfGroup_none hlog] at h
      cases h
  | some log =>
      rw [uuidsOfGroup_some hlog] at h
      obtain ⟨uuid, hmem, heq⟩ := List.mem_map.1 h
      cases uuid with
      | ofPath text => cases heq
      | uuid4 m =>
          obtain rfl : n + m = k := by simpa [shiftUuid4] using heq
          obtain ⟨-, segment, hsegment, -, huuid⟩ := (mem_recordingUuids_logOfGroup hlog).1 hmem
          have hm := uuid4_of_mem_segments hsegment huuid
          have hended := (finishCall_of_logOfGroup hlog).1
          rw [drawsOfGroup, if_neg (not_not.2 hended)]
          omega

lemma flatMap_logsOfGroups_cons :
    (gen.logsOfGroups n (group :: groups)).flatMap recordingUuids =
      uuidsOfGroup gen group n ++
        (gen.logsOfGroups (n + drawsOfGroup group) groups).flatMap recordingUuids := by
  rw [logsOfGroups, List.flatMap_append, uuidsOfGroup]

lemma ofPath_mem_logsOfGroups :
    .ofPath uuid ∈ (gen.logsOfGroups n groups).flatMap recordingUuids ↔
      ∃ group ∈ groups, gen.Records group uuid := by
  induction groups generalizing n with
  | nil => simp [logsOfGroups]
  | cons group groups ih =>
      rw [flatMap_logsOfGroups_cons, List.mem_append, ofPath_mem_uuidsOfGroup, ih,
        List.exists_mem_cons_iff]

lemma le_of_uuid4_mem_logsOfGroups
    (h : .uuid4 k ∈ (gen.logsOfGroups n groups).flatMap recordingUuids) : n ≤ k := by
  induction groups generalizing n with
  | nil => simp [logsOfGroups] at h
  | cons group groups ih =>
      rw [flatMap_logsOfGroups_cons, List.mem_append] at h
      rcases h with h | h
      · exact (le_of_uuid4_mem_uuidsOfGroup h).1
      · exact (Nat.le_add_right n _).trans (ih h)

variable (gen groups n) in
/-- The keys of some groups are distinct exactly if no file's uuid is recorded by two
of them. -/
lemma distinctRecordingKeys_logsOfGroups :
    DistinctRecordingKeys (gen.logsOfGroups n groups) ↔
      groups.Pairwise fun g h => ∀ uuid, gen.Records g uuid → ¬ gen.Records h uuid := by
  induction groups generalizing n with
  | nil => simp [DistinctRecordingKeys, logsOfGroups]
  | cons group groups ih =>
      have hrest := ih (n := n + drawsOfGroup group)
      rw [DistinctRecordingKeys] at hrest ⊢
      rw [flatMap_logsOfGroups_cons, List.nodup_append', hrest, List.pairwise_cons]
      have hdisjoint : List.Disjoint (uuidsOfGroup gen group n)
          ((gen.logsOfGroups (n + drawsOfGroup group) groups).flatMap recordingUuids) ↔
          ∀ h ∈ groups, ∀ uuid, gen.Records group uuid → ¬ gen.Records h uuid := by
        constructor
        · intro hdis h hh uuid hgroup hother
          exact hdis (ofPath_mem_uuidsOfGroup.2 hgroup) (ofPath_mem_logsOfGroups.2 ⟨h, hh, hother⟩)
        · intro hno uuid hgroup hothers
          cases uuid with
          | ofPath text =>
              obtain ⟨h, hh, hother⟩ := ofPath_mem_logsOfGroups.1 hothers
              exact hno h hh text (ofPath_mem_uuidsOfGroup.1 hgroup) hother
          | uuid4 k =>
              -- the later groups are given later numbers
              have hlt := (le_of_uuid4_mem_uuidsOfGroup hgroup).2
              have hle := le_of_uuid4_mem_logsOfGroups hothers
              omega
      rw [hdisjoint]
      constructor
      · rintro ⟨-, hpw, hno⟩
        exact ⟨hno, hpw⟩
      · rintro ⟨hno, hpw⟩
        exact ⟨nodup_uuidsOfGroup gen group n, hpw, hno⟩

end Batch

/-! ### Files and linkedids -/

/-- The MIXMONITOR_STARTs of one file are under correlated linkedids. -/
def FilenamesCorrelated (x : Externals) (cels : List CEL) : Prop :=
  ∀ c ∈ cels, ∀ d ∈ cels, ∀ filename, startFilename x c = some filename →
    startFilename x d = some filename → LinkedidsConnected cels c.linkedid d.linkedid

/-- No uuid is in the paths of two files. -/
def PathUuidsTellFilenames (x : Externals) (cels : List CEL) : Prop :=
  ∀ c ∈ cels, ∀ d ∈ cels, ∀ filename filename' uuid, startFilename x c = some filename →
    startFilename x d = some filename' → recordingPathUuid filename = some uuid →
    recordingPathUuid filename' = some uuid → filename = filename'

section Files

variable {x : Externals} {calleeCels cels : List CEL} {segment : Segment} {uuid : String}
  {n : ℕ}

lemma startFilename_of_readStart {cel : CEL} {filename : String} {mixmonitorId : Json}
    (h : readStart x cel = some (.str filename, mixmonitorId)) :
    startFilename x cel = some filename := by
  rw [startFilename, h]
  rfl

/-- A segment that is named after its file records the file of a start. -/
def Segment.StartedBy (x : Externals) (segment : Segment) (cels : List CEL) (uuid : String) :
    Prop :=
  ∃ cel ∈ cels, ∃ filename, startFilename x cel = some filename ∧
    recordingPathUuid filename = some uuid ∧ segment.path = .str filename

lemma Segment.StartedBy.mono {cels' : List CEL} (hsub : cels ⊆ cels')
    (h : segment.StartedBy x cels uuid) : segment.StartedBy x cels' uuid := by
  obtain ⟨cel, hcel, hstart⟩ := h
  exact ⟨cel, hsub hcel, hstart⟩

lemma startedBy_of_mem_callerSegments (hsegment : segment ∈ callerSegments x calleeCels n cels)
    (huuid : segment.uuid = some (.ofPath uuid)) : segment.StartedBy x cels uuid := by
  obtain ⟨cel, later, path, mixmonitorId, hsuffix, hread, k, -, rfl⟩ :=
    exists_of_mem_callerSegments hsegment
  obtain ⟨filename, rfl⟩ := exists_path_of_newCallerRecording cel mixmonitorId huuid
  have hcaller : callerUuid k filename = .ofPath uuid := Option.some.inj huuid
  exact ⟨cel, hsuffix.subset List.mem_cons_self, filename, startFilename_of_readStart hread,
    callerUuid_eq_ofPath.1 hcaller, rfl⟩

lemma startedBy_of_mem_calleeSegments (hsegment : segment ∈ calleeSegments x cels)
    (huuid : segment.uuid = some (.ofPath uuid)) : segment.StartedBy x cels uuid := by
  obtain ⟨cel, later, path, mixmonitorId, hsuffix, hread, rfl⟩ :=
    exists_of_mem_calleeSegments hsegment
  obtain ⟨filename, rfl⟩ := exists_path_of_newCalleeRecording cel mixmonitorId huuid
  exact ⟨cel, hsuffix.subset List.mem_cons_self, filename, startFilename_of_readStart hread,
    calleeUuid_eq_ofPath.1 huuid, rfl⟩

lemma startedBy_of_mem_segments {interpretor : CELInterpretor}
    (hsegment : segment ∈ interpretor.segments x cels)
    (huuid : segment.uuid = some (.ofPath uuid)) : segment.StartedBy x cels uuid := by
  cases interpretor with
  | localOriginate =>
      have hnone : segment.uuid = none := uuid_of_mem_localSegments hsegment
      cases hnone.symm.trans huuid
  | dispatch =>
      rcases List.mem_append.1 hsegment with hsegment | hsegment
      · exact (startedBy_of_mem_callerSegments hsegment huuid).mono (List.filter_subset_self _)
      · exact (startedBy_of_mem_calleeSegments hsegment huuid).mono (List.filter_subset_self _)

/-- If the groups are the classes of correlated CELs, the starts of one file are all in
one of them. -/
lemma pairwise_records_of_noBridgingLinkedid (gen : CallLogsGenerator)
    (hbridge : NoBridgingLinkedid cels) (hfiles : FilenamesCorrelated gen.externals cels)
    (huuids : PathUuidsTellFilenames gen.externals cels) :
    (groupCelsBySharedChannels cels).Pairwise fun g h =>
      ∀ uuid, gen.Records g uuid → ¬ gen.Records h uuid := by
  have hpartition : IsCorrelationPartition cels (groupCelsBySharedChannels cels) :=
    isCorrelationPartition_iff_isPartition.2 <|
      (Correlation.isPartition_iff_noBridge linkedidsOf_nodup).2
        (noBridge_iff_noBridgingLinkedid.2 hbridge)
  refine hpartition.disjoint.imp_of_mem fun {g h} hg hh hdisjoint uuid hrg hrh => ?_
  obtain ⟨-, segment, hsegment, -, huuid⟩ := hrg
  obtain ⟨-, segment', hsegment', -, huuid'⟩ := hrh
  obtain ⟨c, hc, filename, hstart, hpath, -⟩ := startedBy_of_mem_segments hsegment huuid
  obtain ⟨d, hd, filename', hstart', hpath', -⟩ := startedBy_of_mem_segments hsegment' huuid'
  have hccels := mem_of_mem_groupCelsBySharedChannels hg hc
  have hdcels := mem_of_mem_groupCelsBySharedChannels hh hd
  obtain rfl := huuids c hccels d hdcels filename filename' uuid hstart hstart' hpath hpath'
  have hconnected := hfiles c hccels d hdcels filename hstart hstart'
  exact hdisjoint ((hpartition.mem_iff g hg c hc d hdcels).2 hconnected) hd

end Files

/-- The recordings of a batch have distinct keys if and only if no file's uuid is
recorded by two of the groups.  This is so if no linkedid bridges two chains of smaller
ones and no uuid is in the paths of two files. -/
theorem distinctRecordingKeys_callLogsFromCel_iff (gen : CallLogsGenerator) (cels : List CEL) :
    (DistinctRecordingKeys (gen.callLogsFromCel cels) ↔
      (groupCelsBySharedChannels cels).Pairwise fun g h =>
        ∀ uuid, gen.Records g uuid → ¬ gen.Records h uuid) ∧
    (FilenamesCorrelated gen.externals cels → NoBridgingLinkedid cels →
      PathUuidsTellFilenames gen.externals cels →
        DistinctRecordingKeys (gen.callLogsFromCel cels)) := by
  have hiff : DistinctRecordingKeys (gen.callLogsFromCel cels) ↔
      (groupCelsBySharedChannels cels).Pairwise fun g h =>
        ∀ uuid, gen.Records g uuid → ¬ gen.Records h uuid := by
    rw [callLogsFromCel_eq]
    exact distinctRecordingKeys_logsOfGroups gen _ 0
  refine ⟨hiff, fun hfiles hbridge huuids => hiff.2 ?_⟩
  exact pairwise_records_of_noBridgingLinkedid gen hbridge hfiles huuids

/-- Two calls that a third linkedid bridges, under which a channel of its own is
recorded. -/
def recordedBridge : List CEL :=
  [plainEvent 1 "1.1" "PJSIP/alice-00000001" .chanStart,
   { plainEvent 2 "1.2" "PJSIP/bob-00000002" .chanStart with linkedid := "1.2" },
   { plainEvent 3 "1.3" "PJSIP/carol-00000003" .chanStart with linkedid := "1.3" },
   { plainEvent 4 "1.1" "PJSIP/alice-00000001" .bridgeEnter with linkedid := "1.3" },
   { plainEvent 5 "1.2" "PJSIP/bob-00000002" .bridgeEnter with linkedid := "1.3" },
   { plainEvent 6 "1.3" "PJSIP/carol-00000003" .bridgeEnter with linkedid := "1.3" },
   { startEvent 7 "1.3" "0x1" ("/var/lib/wazo/sounds/tenants/" ++
      "4bc5b4a7-1f4a-4d9b-8b67-97e3c7ea4e90/monitor/6d2a33b1-6c37-4a15-a1d9-4be1d4a33f52.wav")
     with linkedid := "1.3" },
   { plainEvent 8 "1.3" "PJSIP/carol-00000003" .chanEnd with linkedid := "1.3" },
   plainEvent 9 "1.1" "PJSIP/alice-00000001" .chanEnd,
   plainEvent 10 "1.1" "PJSIP/alice-00000001" .linkedidEnd,
   { plainEvent 11 "1.2" "PJSIP/bob-00000002" .chanEnd with linkedid := "1.2" },
   { plainEvent 12 "1.2" "PJSIP/bob-00000002" .linkedidEnd with linkedid := "1.2" },
   { plainEvent 13 "1.3" "PJSIP/carol-00000003" .linkedidEnd with linkedid := "1.3" }]

/-- The recording is in the call logs of both groups. -/
theorem recordedBridge_not_distinctRecordingKeys :
    FilenamesCorrelated .ascii recordedBridge ∧
      ¬ DistinctRecordingKeys (CallLogsGenerator.simple.callLogsFromCel recordedBridge) := by
  -- there is one MIXMONITOR_START
  have hlinkedid : ∀ c ∈ recordedBridge, ∀ d ∈ recordedBridge, startFilename .ascii c ≠ none →
      startFilename .ascii d ≠ none → c.linkedid = d.linkedid := by decide +kernel
  refine ⟨fun c hc d hd filename hcstart hdstart => ?_, by decide +kernel⟩
  have heq := hlinkedid c hc d hd (by simp [hcstart]) (by simp [hdstart])
  rw [heq]
  exact .refl

end CallLogd
