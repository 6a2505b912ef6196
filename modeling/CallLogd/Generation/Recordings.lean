/-
The files of the recordings of a call log.

The segments of a recording are merged by their uuids, so what becomes of the
files depends on the uuids that the handlers give them.
-/
import CallLogd.Interpretor.Intervals
import CallLogd.Generation.RecordingPauses

namespace CallLogd

open CallLogsGenerator Results

/-! ### The merge of the segments -/

section Merge

variable {recordings : List Recording} {path : Json}

/-- The files of the recordings, by uuid. -/
def pathsByUuid (recordings : List Recording) : Dict (Option RecordingUuid) Json :=
  recordings.map fun recording => (recording.uuid, recording.path)

lemma nodup_foldl_seeRecording :
    ((recordings.foldl seeRecording []).map Prod.fst).Nodup :=
  Merging.nodup_table _ _ recordings

/-- A merged recording has the file of its first segment. -/
lemma get?_foldl_seeRecording (uuid : Option RecordingUuid) :
    (Dict.get? (recordings.foldl seeRecording []) uuid).map (·.path) =
      (pathsByUuid recordings).get? uuid := by
  induction recordings using List.reverseRecOn with
  | nil => rfl
  | append_singleton recordings recording ih =>
      rw [List.foldl_concat, seeRecording, Dict.get?_upsert, pathsByUuid, List.map_append,
        Dict.get?_append, ← pathsByUuid, ← ih]
      split
      · next h =>
          -- a recording that was seen with this uuid only gets another end
          subst h
          cases Dict.get? (recordings.foldl seeRecording []) recording.uuid <;>
            simp [Dict.get?]
      · next h =>
          simp [Dict.get?, Ne.symm h]

lemma mem_map_path_mergePauses : path ∈ (mergePauses recordings).map (·.path) ↔
    ∃ uuid, (pathsByUuid recordings).get? uuid = some path := by
  simp only [← get?_foldl_seeRecording, Option.map_eq_some_iff,
    ← Dict.mem_iff_get? nodup_foldl_seeRecording]
  simp [mergePauses]

lemma nodup_map_path_mergePauses : ((mergePauses recordings).map (·.path)).Nodup ↔
    ∀ uuid uuid' path, (pathsByUuid recordings).get? uuid = some path →
      (pathsByUuid recordings).get? uuid' = some path → uuid = uuid' := by
  have hnodup : ((recordings.foldl seeRecording []).map Prod.fst).Nodup :=
    nodup_foldl_seeRecording
  simp only [← get?_foldl_seeRecording, Option.map_eq_some_iff, ← Dict.mem_iff_get? hnodup]
  rw [mergePauses, List.map_map, List.nodup_map_iff_inj_on hnodup.of_map]
  constructor
  · rintro h uuid uuid' path ⟨r, hr, rfl⟩ ⟨r', hr', heq⟩
    exact congrArg Prod.fst (h _ hr _ hr' heq.symm)
  · rintro h ⟨uuid, r⟩ hr ⟨uuid', r'⟩ hr' heq
    exact List.inj_on_of_nodup_map hnodup hr hr' (h _ _ _ ⟨r, hr, rfl⟩ ⟨r', hr', heq.symm⟩)

end Merge

/-! ### The files of two sides -/

/-- A file whose recordings get no uuid from their path. -/
def outsidePath (filename : String) : Bool := (recordingPathUuid filename).isNone

/-- The recordings have the files, and each one once. -/
def ConservesFilenames (recordings : List Recording) (filenames : List String) : Prop :=
  (recordings.map (·.path)).Nodup ∧
    ∀ path, path ∈ recordings.map (·.path) ↔ ∃ filename ∈ filenames, path = .str filename

/-- No two files of a call are taken for one, and no file for two.  The caller's
recordings of a file outside the standard path have a new uuid each, those of the
callees have none. -/
structure SeparateFilenames (caller callee : List String) : Prop where
  uuid_inj : ∀ filename ∈ caller ++ callee, ∀ filename' ∈ caller ++ callee,
    recordingPathUuid filename ≠ none →
      recordingPathUuid filename = recordingPathUuid filename' → filename = filename'
  caller_nodup : (caller.filter outsidePath).Nodup
  callee_first : ∀ first ∈ callee.find? outsidePath, first ∉ caller ∧
    ∀ filename ∈ callee, outsidePath filename → filename ∈ caller ∨ filename = first

/-- The uuid of the `n`-th recording of the caller's side. -/
def callerUuid (n : ℕ) (filename : String) : RecordingUuid :=
  ((recordingPathUuid filename).map .ofPath).getD (.uuid4 n)

/-- The uuid of a recording of the callees' side. -/
def calleeUuid (filename : String) : Option RecordingUuid :=
  (recordingPathUuid filename).map .ofPath

/-- The files of the recordings of both sides, by uuid. -/
def sidesByUuid (caller callee : List String) : Dict (Option RecordingUuid) Json :=
  (caller.zipIdx.map fun p => (some (callerUuid p.2 p.1), .str p.1)) ++
    callee.map fun filename => (calleeUuid filename, .str filename)

section Sides

variable {caller callee : List String} {filename uuid : String} {path : Json} {n : ℕ}

lemma callerUuid_eq_ofPath : callerUuid n filename = .ofPath uuid ↔
    recordingPathUuid filename = some uuid := by
  rw [callerUuid]
  cases recordingPathUuid filename <;> simp

lemma callerUuid_eq_uuid4 {m : ℕ} : callerUuid n filename = .uuid4 m ↔
    n = m ∧ outsidePath filename := by
  rw [callerUuid, outsidePath]
  cases recordingPathUuid filename <;> simp

lemma calleeUuid_eq_ofPath : calleeUuid filename = some (.ofPath uuid) ↔
    recordingPathUuid filename = some uuid := by
  rw [calleeUuid]
  cases recordingPathUuid filename <;> simp

lemma calleeUuid_ne_uuid4 : calleeUuid filename ≠ some (.uuid4 n) := by
  rw [calleeUuid]
  cases recordingPathUuid filename <;> simp

lemma mem_sidesByUuid_ofPath : (some (.ofPath uuid), path) ∈ sidesByUuid caller callee ↔
    ∃ filename ∈ caller ++ callee, recordingPathUuid filename = some uuid ∧
      path = .str filename := by
  rw [sidesByUuid]
  simp only [List.mem_append, List.mem_map, Prod.mk.injEq, Option.some.injEq,
    callerUuid_eq_ofPath, calleeUuid_eq_ofPath, Prod.exists, or_and_right, exists_or]
  refine or_congr ?_ (exists_congr fun f => by rw [eq_comm (a := path)])
  constructor
  · rintro ⟨f, m, hmem, huuid, rfl⟩
    exact ⟨f, List.fst_mem_of_mem_zipIdx hmem, huuid, rfl⟩
  · rintro ⟨f, hmem, huuid, rfl⟩
    obtain ⟨m, hm⟩ := List.getElem?_of_mem hmem
    exact ⟨f, m, List.mem_zipIdx_iff_getElem?.2 hm, huuid, rfl⟩

lemma mem_sidesByUuid_uuid4 : (some (.uuid4 n), path) ∈ sidesByUuid caller callee ↔
    ∃ filename, caller[n]? = some filename ∧ outsidePath filename ∧ path = .str filename := by
  rw [sidesByUuid]
  simp only [List.mem_append, List.mem_map, Prod.mk.injEq, Option.some.injEq,
    callerUuid_eq_uuid4, calleeUuid_ne_uuid4, false_and, and_false, exists_false, or_false,
    Prod.exists]
  constructor
  · rintro ⟨f, m, hmem, ⟨rfl, hf⟩, rfl⟩
    exact ⟨f, List.mem_zipIdx_iff_getElem?.1 hmem, hf, rfl⟩
  · rintro ⟨f, hmem, hf, rfl⟩
    exact ⟨f, n, List.mem_zipIdx_iff_getElem?.2 hmem, ⟨rfl, hf⟩, rfl⟩

lemma get?_sidesByUuid_none : (sidesByUuid caller callee).get? none =
    (callee.find? outsidePath).map .str := by
  have hcaller : Dict.get? (caller.zipIdx.map fun p =>
      ((some (callerUuid p.2 p.1), .str p.1) : Option RecordingUuid × Json)) none = none := by
    refine Dict.get?_eq_none.2 fun p hp => ?_
    obtain ⟨q, -, rfl⟩ := List.mem_map.1 hp
    exact Option.some_ne_none _
  have hkey : (fun filename => decide (calleeUuid filename = none)) = outsidePath := by
    funext filename
    rw [calleeUuid, outsidePath]
    cases recordingPathUuid filename <;> simp
  rw [sidesByUuid, Dict.get?_append, hcaller, Option.none_or, Dict.get?, List.find?_map,
    Function.comp_def, hkey, Option.map_map]
  rfl

lemma get?_sidesByUuid_uuid4 :
    (sidesByUuid caller callee).get? (some (.uuid4 n)) = some path ↔
      ∃ filename, caller[n]? = some filename ∧ outsidePath filename ∧ path = .str filename := by
  refine ⟨fun h => mem_sidesByUuid_uuid4.1 (Dict.mem_of_get? h), ?_⟩
  rintro ⟨filename, hn, hout, rfl⟩
  refine Dict.get?_of_unique (mem_sidesByUuid_uuid4.2 ⟨filename, hn, hout, rfl⟩) fun path' h => ?_
  obtain ⟨filename', hn', -, rfl⟩ := mem_sidesByUuid_uuid4.1 h
  rw [Option.some.inj (hn.symm.trans hn')]

/-- Where the recording with a uuid comes from. -/
inductive UuidOrigin (caller callee : List String) : Option RecordingUuid → String → Prop
  | path {uuid filename : String} (h : recordingPathUuid filename = some uuid) :
      UuidOrigin caller callee (some (.ofPath uuid)) filename
  | caller {n : ℕ} {filename : String} (hn : caller[n]? = some filename)
      (hout : outsidePath filename) : UuidOrigin caller callee (some (.uuid4 n)) filename
  | callee {filename : String} (h : callee.find? outsidePath = some filename) :
      UuidOrigin caller callee none filename

lemma exists_uuidOrigin {uuid : Option RecordingUuid}
    (h : (sidesByUuid caller callee).get? uuid = some path) :
    ∃ filename ∈ caller ++ callee, path = .str filename ∧
      UuidOrigin caller callee uuid filename := by
  match uuid with
  | none =>
      rw [get?_sidesByUuid_none, Option.map_eq_some_iff] at h
      obtain ⟨filename, hfind, rfl⟩ := h
      exact ⟨filename, List.mem_append_right _ (List.mem_of_find?_eq_some hfind), rfl,
        .callee hfind⟩
  | some (.ofPath uuid) =>
      obtain ⟨filename, hmem, huuid, rfl⟩ := mem_sidesByUuid_ofPath.1 (Dict.mem_of_get? h)
      exact ⟨filename, hmem, rfl, .path huuid⟩
  | some (.uuid4 n) =>
      obtain ⟨filename, hn, hout, rfl⟩ := get?_sidesByUuid_uuid4.1 h
      exact ⟨filename, List.mem_append_left _ (List.mem_of_getElem? hn), rfl, .caller hn hout⟩

lemma not_outsidePath (h : recordingPathUuid filename = some uuid) : ¬ outsidePath filename := by
  simp [outsidePath, h]

/-- A file has a recording if it is the first one of its uuid, or is outside the
standard path and either the caller's or the first one of the callees. -/
lemma exists_get?_sidesByUuid_iff :
    (∃ uuid, (sidesByUuid caller callee).get? uuid = some (.str filename)) ↔
      (∃ uuid, recordingPathUuid filename = some uuid ∧
        (sidesByUuid caller callee).get? (some (.ofPath uuid)) = some (.str filename)) ∨
      (filename ∈ caller ∧ outsidePath filename) ∨
      callee.find? outsidePath = some filename := by
  constructor
  · rintro ⟨uuid, h⟩
    obtain ⟨_, -, heq, horigin⟩ := exists_uuidOrigin h
    obtain rfl := Json.str.inj heq
    cases horigin with
    | path huuid => exact .inl ⟨_, huuid, h⟩
    | caller hn hout => exact .inr (.inl ⟨List.mem_of_getElem? hn, hout⟩)
    | callee hfind => exact .inr (.inr hfind)
  · rintro (⟨uuid, -, h⟩ | ⟨hmem, hout⟩ | hfind)
    · exact ⟨_, h⟩
    · obtain ⟨n, hn⟩ := List.getElem?_of_mem hmem
      exact ⟨_, get?_sidesByUuid_uuid4.2 ⟨filename, hn, hout, rfl⟩⟩
    · exact ⟨none, by rw [get?_sidesByUuid_none, hfind]; rfl⟩

lemma nodup_filter_iff {α : Type*} {l : List α} {p : α → Bool} :
    (l.filter p).Nodup ↔
      ∀ (n m : ℕ) (a : α), l[n]? = some a → l[m]? = some a → p a → n = m := by
  rw [List.Nodup, List.pairwise_filter, List.pairwise_iff_getElem]
  constructor
  · intro h n m a hn hm ha
    obtain ⟨hnlt, rfl⟩ := List.getElem?_eq_some_iff.1 hn
    obtain ⟨hmlt, heq⟩ := List.getElem?_eq_some_iff.1 hm
    rcases lt_trichotomy n m with hlt | rfl | hlt
    · exact absurd heq.symm (h n m hnlt hmlt hlt ha (heq ▸ ha))
    · rfl
    · exact absurd heq (h m n hmlt hnlt hlt (heq ▸ ha) ha)
  · intro h n m hn hm hlt ha _ heq
    have hnm := h n m _ (List.getElem?_eq_getElem hn) (heq ▸ List.getElem?_eq_getElem hm) ha
    omega

/-- The uuid of the recording of a file is unique if no file outside the standard
path has two. -/
lemma uuid_unique_iff :
    (∀ uuid uuid' path, (sidesByUuid caller callee).get? uuid = some path →
      (sidesByUuid caller callee).get? uuid' = some path → uuid = uuid') ↔
      (caller.filter outsidePath).Nodup ∧
        ∀ first ∈ callee.find? outsidePath, first ∉ caller := by
  rw [nodup_filter_iff]
  constructor
  · intro h
    refine ⟨fun n m filename hn hm hout => ?_, fun first hfirst hmem => ?_⟩
    · have heq := h _ _ _ (get?_sidesByUuid_uuid4.2 ⟨filename, hn, hout, rfl⟩)
        (get?_sidesByUuid_uuid4.2 ⟨filename, hm, hout, rfl⟩)
      simpa using heq
    · obtain ⟨n, hn⟩ := List.getElem?_of_mem hmem
      have hout := List.find?_some hfirst
      have hnone : (sidesByUuid caller callee).get? none = some (.str first) := by
        rw [get?_sidesByUuid_none, hfirst]
        rfl
      cases h _ _ _ hnone (get?_sidesByUuid_uuid4.2 ⟨first, hn, hout, rfl⟩)
  · rintro ⟨hnodup, hfirst⟩ uuid uuid' path h h'
    obtain ⟨filename, -, rfl, horigin⟩ := exists_uuidOrigin h
    obtain ⟨_, -, heq, horigin'⟩ := exists_uuidOrigin h'
    obtain rfl := Json.str.inj heq
    cases horigin with
    | path huuid =>
        cases horigin' with
        | path huuid' => rw [Option.some.inj (huuid.symm.trans huuid')]
        | caller hn' hout' => exact absurd hout' (not_outsidePath huuid)
        | callee hfind' => exact absurd (List.find?_some hfind') (not_outsidePath huuid)
    | caller hn hout =>
        cases horigin' with
        | path huuid' => exact absurd hout (not_outsidePath huuid')
        | caller hn' hout' => rw [hnodup _ _ _ hn hn' hout]
        | callee hfind' => exact absurd (List.mem_of_getElem? hn) (hfirst _ hfind')
    | callee hfind =>
        cases horigin' with
        | path huuid' => exact absurd (List.find?_some hfind) (not_outsidePath huuid')
        | caller hn' hout' => exact absurd (List.mem_of_getElem? hn') (hfirst _ hfind)
        | callee hfind' => rfl

/-- Every file has a recording if no other file has its uuid, and if the callees
have one file outside the standard path. -/
lemma filenames_kept_iff :
    (∀ filename ∈ caller ++ callee,
      ∃ uuid, (sidesByUuid caller callee).get? uuid = some (.str filename)) ↔
      (∀ filename ∈ caller ++ callee, ∀ filename' ∈ caller ++ callee,
        recordingPathUuid filename ≠ none →
          recordingPathUuid filename = recordingPathUuid filename' → filename = filename') ∧
      ∀ first ∈ callee.find? outsidePath, ∀ filename ∈ callee, outsidePath filename →
        filename ∈ caller ∨ filename = first := by
  simp only [exists_get?_sidesByUuid_iff]
  constructor
  · intro h
    refine ⟨fun filename hmem filename' hmem' hne heq => ?_,
      fun first hfirst filename hmem hout => ?_⟩
    · obtain ⟨uuid, huuid⟩ := Option.ne_none_iff_exists'.1 hne
      -- what has a uuid in its path is neither of the other two origins
      have key : ∀ f ∈ caller ++ callee, recordingPathUuid f = some uuid →
          (sidesByUuid caller callee).get? (some (.ofPath uuid)) = some (.str f) := by
        intro f hf hfuuid
        rcases h f hf with ⟨uuid', huuid', hget⟩ | ⟨-, hout⟩ | hfind
        · rwa [← Option.some.inj (huuid'.symm.trans hfuuid)]
        · exact absurd hout (not_outsidePath hfuuid)
        · exact absurd (List.find?_some hfind) (not_outsidePath hfuuid)
      have hget := key filename hmem huuid
      rw [key filename' hmem' (heq ▸ huuid)] at hget
      exact (Json.str.inj (Option.some.inj hget)).symm
    · rcases h filename (List.mem_append_right _ hmem) with ⟨uuid, huuid, -⟩ | ⟨hcaller, -⟩ | hfind
      · exact absurd hout (not_outsidePath huuid)
      · exact .inl hcaller
      · exact .inr (Option.some.inj (hfind.symm.trans hfirst))
  · rintro ⟨hinj, hcallee⟩ filename hmem
    cases huuid : recordingPathUuid filename with
    | some uuid =>
        refine .inl ⟨uuid, rfl, Dict.get?_of_unique ?_ fun path hpath => ?_⟩
        · exact mem_sidesByUuid_ofPath.2 ⟨filename, hmem, huuid, rfl⟩
        · obtain ⟨filename', hmem', huuid', rfl⟩ := mem_sidesByUuid_ofPath.1 hpath
          rw [hinj filename hmem filename' hmem' (by simp [huuid]) (huuid.trans huuid'.symm)]
    | none =>
        have hout : outsidePath filename := by simp [outsidePath, huuid]
        rcases List.mem_append.1 hmem with hmem | hmem
        · exact .inr (.inl ⟨hmem, hout⟩)
        · obtain ⟨first, hfirst⟩ := Option.isSome_iff_exists.1
            (List.find?_isSome.2 ⟨filename, hmem, hout⟩)
          rcases hcallee first hfirst filename hmem hout with hcaller | rfl
          · exact .inr (.inl ⟨hcaller, hout⟩)
          · exact .inr (.inr hfirst)

/-- The merge conserves the files of two sides if and only if they are separate. -/
lemma conservesFilenames_mergePauses_iff {recordings : List Recording}
    (h : pathsByUuid recordings = sidesByUuid caller callee) :
    ConservesFilenames (mergePauses recordings) (caller ++ callee) ↔
      SeparateFilenames caller callee := by
  have hpaths : (∀ path, path ∈ (mergePauses recordings).map (·.path) ↔
      ∃ filename ∈ caller ++ callee, path = .str filename) ↔
      ∀ filename ∈ caller ++ callee,
        ∃ uuid, (sidesByUuid caller callee).get? uuid = some (.str filename) := by
    simp only [mem_map_path_mergePauses, h]
    constructor
    · exact fun hall filename hmem => (hall _).2 ⟨filename, hmem, rfl⟩
    · refine fun hall path => ⟨?_, ?_⟩
      · rintro ⟨uuid, hget⟩
        obtain ⟨filename, hmem, rfl, -⟩ := exists_uuidOrigin hget
        exact ⟨filename, hmem, rfl⟩
      · rintro ⟨filename, hmem, rfl⟩
        exact hall filename hmem
  rw [ConservesFilenames, nodup_map_path_mergePauses, h, hpaths, uuid_unique_iff,
    filenames_kept_iff]
  constructor
  · rintro ⟨⟨hnodup, hfirst⟩, hinj, hcallee⟩
    exact ⟨hinj, hnodup, fun first h => ⟨hfirst first h, hcallee first h⟩⟩
  · rintro ⟨hinj, hnodup, hcallee⟩
    exact ⟨⟨hnodup, fun first h => (hcallee first h).1⟩, hinj, fun first h => (hcallee first h).2⟩

end Sides

/-! ### Well-formed events -/

/-- The events of a channel start with a CHAN_START, and the last one that is not a
HANGUP or a LINKEDID_END is a CHAN_END. -/
def WellFormedChannel (events : List CEL) : Prop :=
  (∃ cel ∈ events.head?, cel.eventtype = .chanStart) ∧
    ∃ cel ∈ (events.filter fun cel =>
      cel.eventtype ≠ .hangup ∧ cel.eventtype ≠ .linkedidEnd).getLast?, cel.eventtype = .chanEnd

/-- The channels of the CELs are well formed. -/
def WellFormedChannels (cels : List CEL) : Prop :=
  ∀ cel ∈ cels, WellFormedChannel (cels.filter fun cel' => cel'.uniqueid = cel.uniqueid)

/-- The file of a MIXMONITOR_START that is not ignored. -/
def startFilename (x : Externals) (cel : CEL) : Option String :=
  (readStart x cel).bind fun start =>
    match start.1 with
    | .str filename => some filename
    | _ => none

/-- The files of the MIXMONITOR_STARTs. -/
def startFilenames (x : Externals) (cels : List CEL) : List String :=
  cels.filterMap (startFilename x)

/-- The MIXMONITOR events are well formed: none is ignored, and the file names are
texts. -/
structure WellFormedMixmonitor (x : Externals) (cels : List CEL) : Prop where
  start : ∀ cel ∈ cels, cel.eventtype = .mixmonitorStart → startFilename x cel ≠ none
  stop : ∀ cel ∈ cels, cel.eventtype = .mixmonitorStop → readStop x cel ≠ none

section WellFormed

variable {x : Externals} {cels cels' : List CEL} {cel : CEL}

lemma WellFormedMixmonitor.subset (h : WellFormedMixmonitor x cels) (hsub : cels' ⊆ cels) :
    WellFormedMixmonitor x cels' :=
  ⟨fun cel hcel => h.start cel (hsub hcel), fun cel hcel => h.stop cel (hsub hcel)⟩

/-- An event starts no recording, or a recording of its file. -/
lemma WellFormedMixmonitor.readStart (h : WellFormedMixmonitor x cels) (hcel : cel ∈ cels) :
    (CallLogd.readStart x cel = none ∧ startFilename x cel = none ∧
      cel.eventtype ≠ .mixmonitorStart) ∨
    ∃ filename mixmonitorId, CallLogd.readStart x cel = some (.str filename, mixmonitorId) ∧
      startFilename x cel = some filename ∧ cel.eventtype = .mixmonitorStart := by
  by_cases htype : cel.eventtype = .mixmonitorStart
  · obtain ⟨filename, hname⟩ := Option.ne_none_iff_exists'.1 (h.start cel hcel htype)
    obtain ⟨⟨path, mixmonitorId⟩, hread, hpath⟩ := Option.bind_eq_some_iff.1 hname
    obtain rfl : path = .str filename := by
      cases path <;> simp_all
    exact .inr ⟨filename, mixmonitorId, hread, hname, htype⟩
  · have hread : CallLogd.readStart x cel = none := by
      rw [CallLogd.readStart]
      split
      · next hstart _ => exact absurd hstart htype
      · rfl
    exact .inl ⟨hread, by simp [startFilename, hread], htype⟩

/-- Every MIXMONITOR_START is followed by a CHAN_END of its channel. -/
def StartsEnded (cels : List CEL) : Prop :=
  ∀ start rest, start :: rest <:+ cels → start.eventtype = .mixmonitorStart →
    ∃ cel ∈ rest, cel.uniqueid = start.uniqueid ∧ cel.eventtype = .chanEnd

lemma mem_of_getLast?_filter {α : Type*} {p : α → Bool} {a last : α} {before rest : List α}
    (ha : p a) (h : last ∈ ((before ++ a :: rest).filter p).getLast?) : last ∈ a :: rest := by
  rw [List.filter_append, List.filter_cons_of_pos ha, List.getLast?_append,
    List.getLast?_cons, Option.some_or, ← List.getLast?_cons] at h
  rcases List.mem_cons.1 (List.mem_of_getLast? h) with rfl | hlast
  · exact List.mem_cons_self
  · exact List.mem_cons_of_mem _ (List.mem_of_mem_filter hlast)

lemma WellFormedChannels.startsEnded (h : WellFormedChannels cels) : StartsEnded cels := by
  rintro start rest ⟨before, rfl⟩ htype
  obtain ⟨-, cel, hlast, hend⟩ := h start (by simp)
  have huniqueid := List.mem_of_mem_filter (List.mem_of_getLast? hlast)
  rw [List.filter_filter] at hlast
  -- the last event that counts is not before the start, which counts itself
  rcases List.mem_cons.1 (mem_of_getLast?_filter (by simp [htype]) hlast) with rfl | hrest
  · rw [htype] at hend
    cases hend
  · exact ⟨cel, hrest, of_decide_eq_true (List.mem_filter.1 huniqueid).2, hend⟩

lemma StartsEnded.tail (h : StartsEnded (cel :: cels)) : StartsEnded cels :=
  fun start rest hsuffix => h start rest (hsuffix.trans (List.suffix_cons _ _))

/-- The channel of an event is kept or left out as a whole. -/
lemma StartsEnded.filter (h : StartsEnded cels) (p : String → Bool) :
    StartsEnded (cels.filter fun cel => p cel.uniqueid) := by
  induction cels with
  | nil => simpa using h
  | cons cel cels ih =>
      rw [List.filter_cons]
      split
      · next hp =>
          intro start rest hsuffix htype
          rcases List.suffix_cons_iff.1 hsuffix with heq | hsuffix
          · obtain ⟨rfl, rfl⟩ := List.cons.inj heq
            obtain ⟨e, he, huniqueid, hend⟩ := h start cels List.suffix_rfl htype
            exact ⟨e, List.mem_filter.2 ⟨he, huniqueid ▸ hp⟩, huniqueid, hend⟩
          · exact ih h.tail start rest hsuffix htype
      · exact ih h.tail

lemma exists_mem_endTimes {later : List CEL} (h : StartsEnded cels)
    (hsuffix : cel :: later <:+ cels) (htype : cel.eventtype = .mixmonitorStart) :
    ∃ t, t ∈ endTimes later := by
  obtain ⟨e, he, -, hend⟩ := h cel later hsuffix htype
  exact ⟨e.eventtime, mem_endTimes.2 ⟨e, he, hend, rfl⟩⟩

lemma eventtype_of_readStart {start : Json × Json} (h : readStart x cel = some start) :
    cel.eventtype = .mixmonitorStart := by
  rw [readStart] at h
  split at h
  · next htype _ => exact htype
  · cases h

end WellFormed

/-! ### The recordings of the segments -/

section Sides

variable {x : Externals} {calleeCels cels : List CEL} {segment : Segment} {n : ℕ}

lemma pathsByUuid_callerSegments (h : WellFormedMixmonitor x cels) :
    pathsByUuid ((callerSegments x calleeCels n cels).map Segment.recording) =
      ((startFilenames x cels).zipIdx n).map fun p => (some (callerUuid p.2 p.1), .str p.1) := by
  induction cels generalizing n with
  | nil => rfl
  | cons cel cels ih =>
      have ih := fun {n} => ih (n := n) (h.subset (List.subset_cons_self _ _))
      rw [callerSegments]
      rcases h.readStart List.mem_cons_self with ⟨hread, hname, -⟩ | ⟨f, id, hread, hname, -⟩
      · rw [hread, ih, startFilenames, startFilenames, List.filterMap_cons_none hname]
      · rw [hread, startFilenames, List.filterMap_cons_some hname, List.zipIdx_cons]
        exact congrArg (List.cons _) ih

lemma pathsByUuid_calleeSegments (h : WellFormedMixmonitor x cels) :
    pathsByUuid ((calleeSegments x cels).map Segment.recording) =
      (startFilenames x cels).map fun filename => (calleeUuid filename, .str filename) := by
  induction cels with
  | nil => rfl
  | cons cel cels ih =>
      have ih := ih (h.subset (List.subset_cons_self _ _))
      rw [calleeSegments]
      rcases h.readStart List.mem_cons_self with ⟨hread, hname, -⟩ | ⟨f, id, hread, hname, -⟩
      · rw [hread, ih, startFilenames, startFilenames, List.filterMap_cons_none hname]
      · rw [hread, startFilenames, List.filterMap_cons_some hname]
        exact congrArg (List.cons _) ih

lemma ends_of_mem_callerSegments (h : StartsEnded cels)
    (hsegment : segment ∈ callerSegments x calleeCels n cels) : ∃ t, t ∈ segment.ends := by
  obtain ⟨cel, later, path, mixmonitorId, hsuffix, hread, k, -, rfl⟩ :=
    exists_of_mem_callerSegments hsegment
  -- the first end of the caller's channel counts
  obtain ⟨t, ht⟩ := exists_mem_endTimes h hsuffix (eventtype_of_readStart hread)
  obtain ⟨t', ts, hts⟩ := List.exists_cons_of_ne_nil (List.ne_nil_of_mem ht)
  exact ⟨t', by simp [hts]⟩

lemma ends_of_mem_calleeSegments (h : StartsEnded cels)
    (hsegment : segment ∈ calleeSegments x cels) : ∃ t, t ∈ segment.ends := by
  obtain ⟨cel, later, path, mixmonitorId, hsuffix, hread, rfl⟩ :=
    exists_of_mem_calleeSegments hsegment
  exact exists_mem_endTimes h hsuffix (eventtype_of_readStart hread)

/-- The files of the caller's side and those of the callees' side. -/
def sideFilenames (x : Externals) (cels : List CEL) : List String × List String :=
  let (callerCels, calleeCels) := DispatchCELInterpretor.splitCallerCalleeCels cels
  (startFilenames x callerCels, startFilenames x calleeCels)

lemma pathsByUuid_dispatchSegments (h : WellFormedMixmonitor x cels) :
    pathsByUuid ((dispatchSegments x cels).map Segment.recording) =
      sidesByUuid (sideFilenames x cels).1 (sideFilenames x cels).2 := by
  have hcaller : WellFormedMixmonitor x (DispatchCELInterpretor.splitCallerCalleeCels cels).1 :=
    h.subset fun _ => List.mem_of_mem_filter
  have hcallee : WellFormedMixmonitor x (DispatchCELInterpretor.splitCallerCalleeCels cels).2 :=
    h.subset fun _ => List.mem_of_mem_filter
  rw [sidesByUuid, sideFilenames, ← pathsByUuid_callerSegments hcaller,
    ← pathsByUuid_calleeSegments hcallee, pathsByUuid, pathsByUuid, pathsByUuid, dispatchSegments,
    List.map_append, List.map_append]

lemma ends_of_mem_dispatchSegments (h : StartsEnded cels)
    (hsegment : segment ∈ dispatchSegments x cels) : ∃ t, t ∈ segment.ends := by
  rcases List.mem_append.1 hsegment with hsegment | hsegment
  · exact ends_of_mem_callerSegments
      (h.filter fun uniqueid =>
        (DispatchCELInterpretor.chanStartUniqueids cels).head? = some uniqueid) hsegment
  · exact ends_of_mem_calleeSegments
      (h.filter (DispatchCELInterpretor.chanStartUniqueids cels).tail.contains) hsegment

/-- Every event is on the caller's side or on the callees'. -/
lemma mem_split (h : WellFormedChannels cels) {cel : CEL} :
    cel ∈ (DispatchCELInterpretor.splitCallerCalleeCels cels).1 ++
      (DispatchCELInterpretor.splitCallerCalleeCels cels).2 ↔ cel ∈ cels := by
  refine ⟨fun hcel => ?_, fun hcel => ?_⟩
  · rcases List.mem_append.1 hcel with hcel | hcel <;> exact List.mem_of_mem_filter hcel
  · obtain ⟨⟨chanStart, hhead, hstart⟩, -⟩ := h cel hcel
    obtain ⟨hmem, huniqueid⟩ := List.mem_filter.1 (List.mem_of_mem_head? hhead)
    -- the channel of the event has started, first or after another one
    have hstarts : cel.uniqueid ∈ DispatchCELInterpretor.chanStartUniqueids cels :=
      List.mem_map.2 ⟨chanStart, List.mem_filter.2 ⟨hmem, decide_eq_true hstart⟩,
        of_decide_eq_true huniqueid⟩
    rw [DispatchCELInterpretor.splitCallerCalleeCels]
    cases hids : DispatchCELInterpretor.chanStartUniqueids cels with
    | nil =>
        rw [hids] at hstarts
        cases hstarts
    | cons first others =>
        rw [hids] at hstarts
        rcases List.mem_cons.1 hstarts with heq | hother
        · exact List.mem_append_left _ (List.mem_filter.2 ⟨hcel, by simp [heq]⟩)
        · exact List.mem_append_right _ (List.mem_filter.2 ⟨hcel, by simpa using hother⟩)

lemma mem_sideFilenames (h : WellFormedChannels cels) {filename : String} :
    filename ∈ (sideFilenames x cels).1 ++ (sideFilenames x cels).2 ↔
      filename ∈ startFilenames x cels := by
  have happend : (sideFilenames x cels).1 ++ (sideFilenames x cels).2 =
      startFilenames x ((DispatchCELInterpretor.splitCallerCalleeCels cels).1 ++
        (DispatchCELInterpretor.splitCallerCalleeCels cels).2) :=
    List.filterMap_append.symm
  rw [happend, startFilenames, startFilenames, List.mem_filterMap, List.mem_filterMap]
  simp only [mem_split h]

end Sides

section Local

variable {x : Externals} {cels : List CEL}

lemma WellFormedMixmonitor.all_readStart (h : WellFormedMixmonitor x cels) :
    (eventsOf .mixmonitorStart cels).all fun cel => (CallLogd.readStart x cel).isSome := by
  refine List.all_eq_true.2 fun cel hcel => ?_
  obtain ⟨hcel, htype⟩ := List.mem_filter.1 hcel
  rcases h.readStart hcel with ⟨-, -, hne⟩ | ⟨filename, mixmonitorId, hread, -, -⟩
  · exact absurd (of_decide_eq_true htype) hne
  · rw [hread]
    rfl

lemma WellFormedMixmonitor.all_readStop (h : WellFormedMixmonitor x cels) :
    (eventsOf .mixmonitorStop cels).all fun cel => (readStop x cel).isSome := by
  refine List.all_eq_true.2 fun cel hcel => ?_
  obtain ⟨hcel, htype⟩ := List.mem_filter.1 hcel
  exact Option.isSome_iff_ne_none.2 (h.stop cel hcel (of_decide_eq_true htype))

/-- The segments of an originated call whose MIXMONITOR events are well formed. -/
lemma localSegments_eq (h : WellFormedMixmonitor x cels)
    {ev : LocalOriginateCELInterpretor.StartingEvents}
    (hev : LocalOriginateCELInterpretor.startingEvents cels = some ev) :
    localSegments x cels = (eventsOf .mixmonitorStart cels).filterMap fun cel =>
      (readStart x cel).map fun start =>
        { uuid := none
          path := start.1
          mixmonitorId := start.2
          start := cel.eventtime
          stops := stopTimes x start.2 (localStops x cels)
          ends := [ev.sourceChannelEnd.eventtime] } := by
  have hstarts : (eventsOf .mixmonitorStart cels).takeWhile (fun cel => (readStart x cel).isSome) =
      eventsOf .mixmonitorStart cels :=
    List.takeWhile_eq_self_iff.2 (List.all_eq_true.1 h.all_readStart)
  rw [localSegments, hev]
  dsimp only
  rw [h.all_readStart, h.all_readStop, hstarts]
  rfl

lemma pathsByUuid_localSegments (h : WellFormedMixmonitor x cels)
    (hev : LocalOriginateCELInterpretor.startingEvents cels ≠ none) :
    pathsByUuid ((localSegments x cels).map Segment.recording) =
      (startFilenames x cels).map fun filename => (none, .str filename) := by
  obtain ⟨ev, hev⟩ := Option.ne_none_iff_exists'.1 hev
  rw [localSegments_eq h hev, pathsByUuid, startFilenames, eventsOf, List.filterMap_filter,
    List.map_map, List.map_filterMap, List.map_filterMap]
  refine List.filterMap_congr fun cel hcel => ?_
  rcases h.readStart hcel with ⟨-, hname, htype⟩ | ⟨f, id, hread, hname, htype⟩
  · rw [hname, if_neg (by simpa using htype)]
    rfl
  · rw [hname, if_pos (by simpa using htype), hread]
    rfl

lemma ends_of_mem_localSegments (h : WellFormedMixmonitor x cels) {segment : Segment}
    (hsegment : segment ∈ localSegments x cels) : ∃ t, t ∈ segment.ends := by
  cases hev : LocalOriginateCELInterpretor.startingEvents cels with
  | none => simp [localSegments, hev] at hsegment
  | some ev =>
      rw [localSegments_eq h hev] at hsegment
      obtain ⟨cel, -, heq⟩ := List.mem_filterMap.1 hsegment
      obtain ⟨start, -, rfl⟩ := Option.map_eq_some_iff.1 heq
      exact ⟨_, List.mem_singleton_self _⟩

/-- Recordings without uuid are merged into one, so they must be of one file. -/
lemma conservesFilenames_mergePauses_none_iff {recordings : List Recording}
    {filenames : List String}
    (h : pathsByUuid recordings = filenames.map fun filename => (none, .str filename)) :
    ConservesFilenames (mergePauses recordings) filenames ↔
      ∀ filename ∈ filenames, ∀ filename' ∈ filenames, filename = filename' := by
  -- only the first recording is seen as new
  have hget : ∀ uuid path, (pathsByUuid recordings).get? uuid = some path ↔
      uuid = none ∧ ∃ filename ∈ filenames.head?, path = .str filename := by
    intro uuid path
    rw [h]
    cases uuid with
    | none => cases filenames <;> simp [Dict.get?, eq_comm]
    | some uuid =>
        have hnone : Dict.get? (filenames.map fun filename =>
            ((none, .str filename) : Option RecordingUuid × Json)) (some uuid) = none := by
          refine Dict.get?_eq_none.2 fun p hp => ?_
          obtain ⟨filename, -, rfl⟩ := List.mem_map.1 hp
          exact (Option.some_ne_none _).symm
        simp [hnone]
  have hnodup : ((mergePauses recordings).map (·.path)).Nodup := by
    rw [nodup_map_path_mergePauses]
    intro uuid uuid' path huuid huuid'
    rw [((hget _ _).1 huuid).1, ((hget _ _).1 huuid').1]
  simp only [ConservesFilenames, hnodup, true_and, mem_map_path_mergePauses, hget, exists_eq_left]
  cases filenames with
  | nil => simp
  | cons first others =>
      simp only [List.head?_cons, Option.mem_def, Option.some.injEq, exists_eq_left']
      constructor
      · intro hall filename hmem filename' hmem'
        have heq := (hall _).2 ⟨filename, hmem, rfl⟩
        have heq' := (hall _).2 ⟨filename', hmem', rfl⟩
        rw [Json.str.inj heq, Json.str.inj heq']
      · refine fun hall path => ⟨fun hpath => ⟨first, List.mem_cons_self, hpath⟩, ?_⟩
        rintro ⟨filename, hmem, rfl⟩
        rw [hall first List.mem_cons_self filename hmem]

end Local

/-! ### The recordings of a call log -/

/-- An interpretor handles the events of the call to its end. -/
def CELInterpretor.HandlesToEnd : CELInterpretor → List CEL → Prop
  | localOriginate, cels => LocalOriginateCELInterpretor.startingEvents cels ≠ none
  | dispatch, _ => True

/-- The uuids that an interpretor gives tell the files of the recordings apart.
Those of an originated call have none. -/
def CELInterpretor.SeparatesFilenames (x : Externals) : CELInterpretor → List CEL → Prop
  | localOriginate, cels => ∀ filename ∈ startFilenames x cels,
      ∀ filename' ∈ startFilenames x cels, filename = filename'
  | dispatch, cels => SeparateFilenames (sideFilenames x cels).1 (sideFilenames x cels).2

section CallLog

variable {x : Externals} {gen : CallLogsGenerator} {interpretor : CELInterpretor} {cels : List CEL}
  {linkedids : Finset String} {cache : VoicemailCache} {call : RawCallLog} {log : CallLog}

lemma ends_of_mem_segments (hmixmonitor : WellFormedMixmonitor x cels)
    (hchannels : WellFormedChannels cels) {segment : Segment}
    (hsegment : segment ∈ interpretor.segments x cels) : ∃ t, t ∈ segment.ends := by
  cases interpretor with
  | localOriginate => exact ends_of_mem_localSegments hmixmonitor hsegment
  | dispatch => exact ends_of_mem_dispatchSegments hchannels.startsEnded hsegment

lemma conservesFilenames_segments_iff (hmixmonitor : WellFormedMixmonitor x cels)
    (hchannels : WellFormedChannels cels) (hhandled : interpretor.HandlesToEnd cels) :
    ConservesFilenames (mergePauses ((interpretor.segments x cels).map Segment.recording))
        (startFilenames x cels) ↔ interpretor.SeparatesFilenames x cels := by
  cases interpretor with
  | localOriginate =>
      exact conservesFilenames_mergePauses_none_iff (pathsByUuid_localSegments hmixmonitor hhandled)
  | dispatch =>
      have hsides := conservesFilenames_mergePauses_iff (pathsByUuid_dispatchSegments hmixmonitor)
      simp only [ConservesFilenames, mem_sideFilenames hchannels] at hsides
      exact hsides

/-- A recording with an end is kept. -/
lemma completeRecordings_segments (hends : ∀ segment ∈ interpretor.segments x cels,
    ∃ t, t ∈ segment.ends) :
    completeRecordings ((interpretor.segments x cels).map Segment.recording) =
      (interpretor.segments x cels).map Segment.recording := by
  refine List.filter_eq_self.2 fun recording hmem => decide_eq_true ?_
  obtain ⟨segment, hsegment, rfl⟩ := List.mem_map.1 hmem
  obtain ⟨t, ht⟩ := hends segment hsegment
  obtain ⟨m, hmax⟩ := Option.isSome_iff_exists.1 (List.isSome_max?_of_mem ht)
  refine ⟨Option.some_ne_none _, ?_⟩
  cases hlast : segment.stops.getLast? <;> simp [Segment.recording, hmax, hlast]

lemma recordings_interpretCall (h : gen.interpretCall linkedids cels = .ok call) :
    call.recordings =
      ((getInterpretor cels).segments gen.externals cels).map Segment.recording := by
  have hframe := congrArg CallFrame.recordings (frame_interpretCall linkedids cels call h)
  obtain ⟨call₁, h₁, -⟩ := exists_of_bind_eq_ok h
  have hcall₁ := congrArg CallFrame.recordings
    ((getInterpretor cels).frame_interpretCels cels call₁ h₁)
  rw [← (getInterpretor cels).recordings_interpretCels cels rfl call₁ h₁]
  exact hframe.trans hcall₁.symm

/-- The recordings of the call log of an answered call are merged from the complete ones of
its segments. -/
lemma recordings_of_finishCall {voicemail : Option Voicemail}
    (hcall : gen.interpretCall linkedids cels = .ok call)
    (hfinish : finishCall (supersedeDestination call voicemail) = .ok log) :
    log.recordings = if callWasAnswered call then mergePauses (completeRecordings
      (((getInterpretor cels).segments gen.externals cels).map Segment.recording)) else [] := by
  have hanswered : callWasAnswered (supersedeDestination call voicemail) =
      callWasAnswered call := by
    cases voicemail <;> rfl
  have hrecordings : (supersedeDestination call voicemail).recordings = call.recordings :=
    congrArg CallFrame.recordings (frame_supersedeDestination voicemail)
  rw [(finishCall_eq_ok hfinish).2, finishRecordings_eq, hanswered, withoutPauses_eq,
    hrecordings, recordings_interpretCall hcall]

/-- The recordings of the call log of an answered call are merged from those of the
segments. -/
lemma recordings_callLogOfGroup (hmixmonitor : WellFormedMixmonitor gen.externals cels)
    (hchannels : WellFormedChannels cels) (hcall : gen.interpretCall linkedids cels = .ok call)
    (hanswered : callWasAnswered call)
    (hlog : (gen.callLogOfGroup linkedids cels cache).1 = .ok log) :
    log.recordings = mergePauses
      (((getInterpretor cels).segments gen.externals cels).map Segment.recording) := by
  obtain ⟨call', voicemail, hcall', hfinish⟩ := callLogOfGroup_eq_ok hlog
  obtain rfl : call = call' := Except.ok.inj (hcall.symm.trans hcall')
  rw [recordings_of_finishCall hcall hfinish, if_pos hanswered, completeRecordings_segments
    fun segment hsegment => ends_of_mem_segments hmixmonitor hchannels hsegment]

/-- The recordings of the call log of an answered call have the files of its
MIXMONITOR_STARTs, each one once, if and only if their uuids tell these apart. -/
theorem conservesFilenames_iff (hmixmonitor : WellFormedMixmonitor gen.externals cels)
    (hchannels : WellFormedChannels cels) (hhandled : (getInterpretor cels).HandlesToEnd cels)
    (hcall : gen.interpretCall linkedids cels = .ok call) (hanswered : callWasAnswered call)
    (hlog : (gen.callLogOfGroup linkedids cels cache).1 = .ok log) :
    ConservesFilenames log.recordings (startFilenames gen.externals cels) ↔
      (getInterpretor cels).SeparatesFilenames gen.externals cels := by
  rw [recordings_callLogOfGroup hmixmonitor hchannels hcall hanswered hlog]
  exact conservesFilenames_segments_iff hmixmonitor hchannels hhandled

end CallLog

/-! ### An answered call and an originated call -/

/-- The caller's side is recorded, and the callee's recording is paused and
resumed. -/
def pausedCall : List CEL :=
  [plainEvent 1 "1.1" "PJSIP/alice-00000001" .chanStart,
   plainEvent 2 "1.2" "PJSIP/bob-00000002" .chanStart,
   plainEvent 3 "1.2" "PJSIP/bob-00000002" .answer,
   plainEvent 4 "1.1" "PJSIP/alice-00000001" .answer,
   plainEvent 5 "1.1" "PJSIP/alice-00000001" .bridgeEnter,
   plainEvent 6 "1.2" "PJSIP/bob-00000002" .bridgeEnter,
   startEvent 7 "1.1" "0x1" "/tmp/a.wav",
   startEvent 8 "1.2" "0x2" "/tmp/b.wav", stopEvent 9 "1.2" "0x2",
   startEvent 10 "1.2" "0x3" "/tmp/b.wav", stopEvent 11 "1.2" "0x3",
   plainEvent 12 "1.2" "PJSIP/bob-00000002" .chanEnd,
   plainEvent 13 "1.1" "PJSIP/alice-00000001" .chanEnd,
   plainEvent 14 "1.1" "PJSIP/alice-00000001" .linkedidEnd]

/-- The user who originated the call records it twice, in two files. -/
def originatedCall : List CEL :=
  [plainEvent 1 "1.1" "Local/1002@default-00000000;1" .chanStart,
   plainEvent 2 "1.2" "Local/1002@default-00000000;2" .chanStart,
   plainEvent 3 "1.3" "PJSIP/alice-00000001" .chanStart,
   plainEvent 4 "1.3" "PJSIP/alice-00000001" .answer,
   plainEvent 5 "1.1" "Local/1002@default-00000000;1" .answer,
   plainEvent 6 "1.4" "PJSIP/bob-00000002" .chanStart,
   plainEvent 7 "1.4" "PJSIP/bob-00000002" .answer,
   plainEvent 8 "1.2" "Local/1002@default-00000000;2" .answer,
   plainEvent 9 "1.4" "PJSIP/bob-00000002" .bridgeEnter,
   startEvent 10 "1.3" "0x1" "/tmp/a.wav", stopEvent 11 "1.3" "0x1",
   startEvent 12 "1.3" "0x2" "/tmp/b.wav", stopEvent 13 "1.3" "0x2",
   plainEvent 14 "1.4" "PJSIP/bob-00000002" .chanEnd,
   plainEvent 15 "1.3" "PJSIP/alice-00000001" .chanEnd,
   plainEvent 16 "1.2" "Local/1002@default-00000000;2" .chanEnd,
   plainEvent 17 "1.1" "Local/1002@default-00000000;1" .chanEnd,
   plainEvent 18 "1.1" "Local/1002@default-00000000;1" .linkedidEnd]

instance (cels : List CEL) : Decidable (WellFormedChannels cels) :=
  inferInstanceAs (Decidable (∀ cel ∈ cels, (∃ _ ∈ _, _) ∧ ∃ _ ∈ _, _))

lemma interpretCall_pausedCall :
    ∃ call, CallLogsGenerator.simple.interpretCall {"1.1"} pausedCall = .ok call ∧
      callWasAnswered call = true :=
  exists_of_map_eq_ok (by decide +kernel)

lemma interpretCall_originatedCall :
    ∃ call, CallLogsGenerator.simple.interpretCall {"1.1"} originatedCall = .ok call ∧
      callWasAnswered call = true :=
  exists_of_map_eq_ok (by decide +kernel)

lemma callLogOfGroup_pausedCall :
    ∃ log, (CallLogsGenerator.simple.callLogOfGroup {"1.1"} pausedCall []).1 = .ok log ∧
      log.celIds = pausedCall.map (·.id) :=
  exists_of_map_eq_ok (by decide +kernel)

lemma callLogOfGroup_originatedCall :
    ∃ log, (CallLogsGenerator.simple.callLogOfGroup {"1.1"} originatedCall []).1 = .ok log ∧
      log.recordings.map (·.path) = [.str "/tmp/a.wav"] :=
  exists_of_map_eq_ok (by decide +kernel)

/-- Each file of the call has one recording. -/
theorem conservesFilenames_pausedCall :
    ∃ log, (CallLogsGenerator.simple.callLogOfGroup {"1.1"} pausedCall []).1 = .ok log ∧
      ConservesFilenames log.recordings (startFilenames .ascii pausedCall) := by
  obtain ⟨call, hcall, hanswered⟩ := interpretCall_pausedCall
  obtain ⟨log, hlog, -⟩ := callLogOfGroup_pausedCall
  have hinterpretor : getInterpretor pausedCall = .dispatch := by decide +kernel
  refine ⟨log, hlog, (conservesFilenames_iff ⟨?_, ?_⟩ ?_ ?_ hcall hanswered hlog).2 ?_⟩
  · decide +kernel
  · decide +kernel
  · decide +kernel
  · rw [hinterpretor]
    trivial
  · rw [hinterpretor]
    exact ⟨by decide +kernel, by decide +kernel, by decide +kernel⟩

/-- The second file of the originated call is in no recording. -/
theorem originatedCall_loses_filename :
    ∃ call log, WellFormedMixmonitor .ascii originatedCall ∧ WellFormedChannels originatedCall ∧
      (getInterpretor originatedCall).HandlesToEnd originatedCall ∧
      CallLogsGenerator.simple.interpretCall {"1.1"} originatedCall = .ok call ∧
      callWasAnswered call = true ∧
      (CallLogsGenerator.simple.callLogOfGroup {"1.1"} originatedCall []).1 = .ok log ∧
      ¬ ConservesFilenames log.recordings (startFilenames .ascii originatedCall) := by
  obtain ⟨call, hcall, hanswered⟩ := interpretCall_originatedCall
  obtain ⟨log, hlog, hpaths⟩ := callLogOfGroup_originatedCall
  have hinterpretor : getInterpretor originatedCall = .localOriginate := by decide +kernel
  refine ⟨call, log, ⟨by decide +kernel, by decide +kernel⟩, by decide +kernel, ?_, hcall,
    hanswered, hlog, fun h => ?_⟩
  · rw [hinterpretor]
    exact Option.isSome_iff_ne_none.1 (by decide +kernel)
  · have hmem := (h.2 (.str "/tmp/b.wav")).2 ⟨_, by decide +kernel, rfl⟩
    rw [hpaths] at hmem
    exact absurd hmem (by decide)

end CallLogd
