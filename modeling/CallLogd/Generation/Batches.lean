/-
A batch of calls, call by call.

The voicemail cache that the calls of a batch share changes no result, so the
call logs of a batch are those of its groups.  The groups of unrelated CELs are
independent, hence so are the call logs.  The order of the CELs shows in the groups
only where two CELs of a group have the same time.
-/
import CallLogd.Generation.Grouping

namespace CallLogd

open Sequences Correlation
open scoped List

/-! ### Random uuids -/

/-- Forget which draw a random uuid comes from. -/
def RecordingUuid.eraseUuid4 : RecordingUuid → RecordingUuid
  | .ofPath text => .ofPath text
  | .uuid4 _ => .uuid4 0

/-- A call log up to its random recording uuids. -/
def CallLog.eraseUuid4 (log : CallLog) : CallLog :=
  { log with
    recordings := log.recordings.map fun recording =>
      { recording with uuid := recording.uuid.map RecordingUuid.eraseUuid4 } }

namespace CallLogsGenerator

@[simp]
lemma eraseUuid4_shiftCallLog (n : ℕ) (log : CallLog) :
    (shiftCallLog n log).eraseUuid4 = log.eraseUuid4 := by
  have huuid : ∀ uuid, RecordingUuid.eraseUuid4 (shiftUuid4 n uuid) = uuid.eraseUuid4 := by
    rintro (_ | _) <;> rfl
  simp [CallLog.eraseUuid4, shiftCallLog, Function.comp_def, huuid]

variable (gen : CallLogsGenerator)

/-! ### The voicemail cache -/

/-- The cache holds answers of confd only. -/
def CacheSound (cache : VoicemailCache) : Prop :=
  ∀ key voicemail, cache.get? key = some voicemail →
    ∃ voicemails, gen.confd.voicemails key = .ok voicemails ∧ voicemail = voicemails.head?

lemma cacheSound_nil : gen.CacheSound [] := by
  intro key voicemail h
  simp [Dict.get?] at h

variable {gen} {cache : VoicemailCache} {cels : List CEL}

/-- A sound cache changes no answer, and remains sound. -/
lemma findVoicemail_of_cacheSound (h : gen.CacheSound cache) (number context tenantUuid) :
    (gen.findVoicemail number context tenantUuid cache).1 =
        (gen.findVoicemail number context tenantUuid []).1 ∧
      gen.CacheSound (gen.findVoicemail number context tenantUuid cache).2 := by
  cases number with
  | none => exact ⟨rfl, h⟩
  | some number =>
      unfold findVoicemail
      by_cases hnumber : number = ""
      · simp [hnumber, h]
      · simp only [hnumber, if_false]
        have hnil : Dict.get? ([] : VoicemailCache) (number, context, tenantUuid) = none := rfl
        rw [hnil]
        cases hget : Dict.get? cache (number, context, tenantUuid) with
        | some voicemail =>
            obtain ⟨voicemails, hconfd, rfl⟩ := h _ _ hget
            simp [hconfd, h]
        | none =>
            simp only
            split
            · next voicemails hconfd =>
                refine ⟨rfl, fun key voicemail hkey => ?_⟩
                rw [Dict.get?_set] at hkey
                split at hkey
                · next heq =>
                    exact ⟨voicemails, heq ▸ hconfd, (Option.some.inj hkey).symm⟩
                · exact h key voicemail hkey
            all_goals exact ⟨rfl, h⟩

lemma resolveVoicemailDestination_of_cacheSound (h : gen.CacheSound cache) (call : RawCallLog) :
    (gen.resolveVoicemailDestination call cache).1 =
        (gen.resolveVoicemailDestination call []).1 ∧
      gen.CacheSound (gen.resolveVoicemailDestination call cache).2 := by
  unfold resolveVoicemailDestination
  split
  · exact ⟨rfl, h⟩
  · obtain ⟨hvoicemail, hsound⟩ :=
      findVoicemail_of_cacheSound h call.voicemailNumber call.voicemailContext call.tenantUuid
    simp only
    exact ⟨by rw [hvoicemail], hsound⟩

lemma callLogOfGroup_of_cacheSound (h : gen.CacheSound cache) (linkedids : Finset String)
    (cels : List CEL) :
    (gen.callLogOfGroup linkedids cels cache).1 = (gen.callLogOfGroup linkedids cels []).1 ∧
      gen.CacheSound (gen.callLogOfGroup linkedids cels cache).2 := by
  unfold callLogOfGroup
  split
  · exact ⟨rfl, h⟩
  · next call _ =>
      obtain ⟨hcall, hsound⟩ := resolveVoicemailDestination_of_cacheSound h call
      simp only
      exact ⟨by rw [hcall], hsound⟩

/-! ### The call logs of the groups -/

variable (gen) in
/-- The call log of a group, if it has one, with its draws numbered from zero. -/
def logOfGroup (group : Finset String × List CEL) : Option CallLog :=
  if group.1 ≠ terminatedLinks group.2 then none
  else (gen.callLogOfGroup group.1 group.2 []).1.toOption

/-- The number of draws that a group is given. -/
def drawsOfGroup (group : Finset String × List CEL) : ℕ :=
  if group.1 ≠ terminatedLinks group.2 then 0 else group.2.length

variable (gen) in
/-- The call logs of some groups, with their draws numbered from `n` on. -/
def logsOfGroups : ℕ → List (Finset String × List CEL) → List CallLog
  | _, [] => []
  | n, group :: groups =>
      ((gen.logOfGroup group).map (shiftCallLog n)).toList ++
        logsOfGroups (n + drawsOfGroup group) groups

/-- One group adds its call log to the batch. -/
lemma addCall_spec {batch : Batch} (h : gen.CacheSound batch.voicemailCache)
    (group : Finset String × List CEL) :
    (gen.addCall batch group).result = batch.result ++
        ((gen.logOfGroup group).map (shiftCallLog batch.uuid4Calls)).toList ∧
      (gen.addCall batch group).uuid4Calls = batch.uuid4Calls + drawsOfGroup group ∧
      gen.CacheSound (gen.addCall batch group).voicemailCache := by
  rw [addCall, logOfGroup, drawsOfGroup]
  split
  · simp [h]
  · obtain ⟨hlog, hsound⟩ := callLogOfGroup_of_cacheSound h group.1 group.2
    rw [← hlog]
    refine ⟨?_, rfl, hsound⟩
    simp only
    cases (gen.callLogOfGroup group.1 group.2 batch.voicemailCache).1 <;>
      simp [Except.toOption]

/-- The call logs of a batch are those of its groups. -/
lemma callLogsFromCel_eq (cels : List CEL) :
    gen.callLogsFromCel cels = gen.logsOfGroups 0 (groupCelsBySharedChannels cels) := by
  have hfold : ∀ (groups : List (Finset String × List CEL)) (batch : Batch),
      gen.CacheSound batch.voicemailCache →
        (groups.foldl gen.addCall batch).result =
          batch.result ++ gen.logsOfGroups batch.uuid4Calls groups := by
    intro groups
    induction groups with
    | nil => simp [logsOfGroups]
    | cons group groups ih =>
        intro batch h
        obtain ⟨hresult, hcalls, hsound⟩ := addCall_spec h group
        rw [List.foldl_cons, ih _ hsound, hresult, hcalls, List.append_assoc, logsOfGroups]
  rw [callLogsFromCel, hfold _ _ (cacheSound_nil gen)]
  rfl

/-- A call log of a batch is that of a group, up to the numbers of its draws. -/
lemma exists_logOfGroup_of_mem {cels : List CEL} {log : CallLog}
    (h : log ∈ gen.callLogsFromCel cels) :
    ∃ group n log', gen.logOfGroup group = some log' ∧ shiftCallLog n log' = log := by
  rw [callLogsFromCel_eq] at h
  generalize groupCelsBySharedChannels cels = groups at h
  generalize 0 = n at h
  induction groups generalizing n with
  | nil => cases h
  | cons group groups ih =>
      rw [logsOfGroups] at h
      rcases List.mem_append.1 h with h | h
      · obtain ⟨log', hlog', heq⟩ := Option.map_eq_some_iff.1 (Option.mem_toList.1 h)
        exact ⟨group, n, log', hlog', heq⟩
      · exact ih _ h

/-- What does not depend on the random uuids is computed group by group. -/
lemma callLogsFromCel_map {β : Type*} {f : CallLog → β}
    (hf : ∀ n log, f (shiftCallLog n log) = f log) (cels : List CEL) :
    (gen.callLogsFromCel cels).map f =
      (groupCelsBySharedChannels cels).filterMap fun group => (gen.logOfGroup group).map f := by
  have hmap : ∀ (groups : List (Finset String × List CEL)) (n : ℕ),
      (gen.logsOfGroups n groups).map f =
        groups.filterMap fun group => (gen.logOfGroup group).map f := by
    intro groups
    induction groups with
    | nil => exact fun _ => rfl
    | cons group groups ih =>
        intro n
        rw [logsOfGroups, List.map_append, ih]
        cases hlog : gen.logOfGroup group <;> simp [hlog, hf]
  rw [callLogsFromCel_eq, hmap]

end CallLogsGenerator

/-! ### Unrelated CELs -/

/-- No CEL of one list has the linkedid or the channel of a CEL of the other. -/
structure Unrelated (A B : List CEL) : Prop where
  linkedid_ne : ∀ a ∈ A, ∀ b ∈ B, a.linkedid ≠ b.linkedid
  uniqueid_ne : ∀ a ∈ A, ∀ b ∈ B, a.uniqueid ≠ b.uniqueid

variable {A B C : List CEL}

lemma Unrelated.symm (h : Unrelated A B) : Unrelated B A :=
  ⟨fun b hb a ha => (h.linkedid_ne a ha b hb).symm, fun b hb a ha => (h.uniqueid_ne a ha b hb).symm⟩

/-- A linkedid is one of the CELs. -/
def hasLinkedid (cels : List CEL) (linkedid : String) : Bool := linkedid ∈ linkedidsOf cels

@[simp]
lemma hasLinkedid_iff {cels : List CEL} {l : String} :
    hasLinkedid cels l = true ↔ ∃ c ∈ cels, c.linkedid = l := by
  rw [hasLinkedid, decide_eq_true_eq, mem_linkedidsOf]

/-- The linkedids of unrelated CELs are not linked. -/
lemma Unrelated.hasLinkedid_eq (h : Unrelated A B) (hC : Interleaving A B C) {a b : String}
    (hab : ShareUniqueid C a b) : hasLinkedid A a = hasLinkedid A b := by
  obtain ⟨c, hc, d, hd, rfl, rfl, hcd⟩ := hab
  have key : ∀ c ∈ C, ∀ d ∈ C, c.uniqueid = d.uniqueid → hasLinkedid A c.linkedid = true →
      hasLinkedid A d.linkedid = true := by
    intro c hc d hd hcd hA
    obtain ⟨a, ha, hac⟩ := hasLinkedid_iff.1 hA
    have hcA : c ∈ A := (hC.mem_iff.1 hc).resolve_right fun hcB => h.linkedid_ne a ha c hcB hac
    have hdA : d ∈ A := (hC.mem_iff.1 hd).resolve_right fun hdB => h.uniqueid_ne c hcA d hdB hcd
    exact hasLinkedid_iff.2 ⟨d, hdA, rfl⟩
  exact Bool.eq_iff_iff.2 ⟨key c hc d hd hcd, key d hd c hc hcd.symm⟩

/-- The groups of the first of two unrelated lists, among those of an interleaving. -/
lemma Unrelated.groupCelsBySharedChannels_eq (h : Unrelated A B) (hC : Interleaving A B C) :
    groupCelsBySharedChannels A =
      ((linkedidGroups C).filter (·.any (hasLinkedid A))).map (groupOfLinkedids C) := by
  have hA : C.filter (fun c => hasLinkedid A c.linkedid) = A := by
    refine hC.filter_eq (fun a ha => hasLinkedid_iff.2 ⟨a, ha, rfl⟩) fun b hb => ?_
    rw [Bool.eq_false_iff, Ne, hasLinkedid_iff]
    rintro ⟨a, ha, hab⟩
    exact h.linkedid_ne a ha b hb hab
  have hlinkedids : linkedidsOf A = (linkedidsOf C).filter (hasLinkedid A) := by
    conv_lhs => rw [← hA]
    exact distinctKeys_filter
  have hcels : ∀ l ∈ linkedidsOf A, celsOfLinkedid A l = celsOfLinkedid C l := by
    intro l hl
    conv_lhs => rw [← hA]
    rw [celsOfLinkedid, celsOfLinkedid, List.filter_filter]
    refine List.filter_congr fun c _ => ?_
    by_cases hcl : c.linkedid = l
    · simpa [hcl] using mem_linkedidsOf.1 hl
    · simp [hcl]
  have hgroups : linkedidGroups A = (linkedidGroups C).filter (·.any (hasLinkedid A)) := by
    rw [linkedidGroups, linkedidGroups, ← groups_filter, ← hlinkedids]
    · exact groups_congr fun l hl => by rw [channelsOf, channelsOf, hcels l hl]
    · exact fun a _ b _ hab => h.hasLinkedid_eq hC (linked_iff_shareUniqueid.1 hab)
  rw [CallLogd.groupCelsBySharedChannels_eq, ← hgroups]
  refine List.map_congr_left fun G hG => ?_
  rw [groupOfLinkedids, groupOfLinkedids,
    List.flatMap_congr fun l hl => hcels l (mem_of_mem_groups hG hl)]

/-- The groups of an interleaving of unrelated lists are those of the lists. -/
lemma Unrelated.groupCelsBySharedChannels_perm (h : Unrelated A B) (hC : Interleaving A B C) :
    groupCelsBySharedChannels C ~ groupCelsBySharedChannels A ++ groupCelsBySharedChannels B := by
  -- a group has linkedids of one of the lists only
  have hcongr : ∀ G ∈ linkedidGroups C, G.any (hasLinkedid B) = !G.any (hasLinkedid A) := by
    intro G hG
    obtain ⟨l, hl⟩ := List.exists_mem_of_ne_nil G (groups_ne_nil hG)
    have hsame : ∀ a ∈ G, hasLinkedid A a = hasLinkedid A l := fun a ha =>
      (connected_of_mem_groups hG hl ha).mem_of_closed
        (S := fun b => hasLinkedid A b = hasLinkedid A l) rfl fun b c hb _ _ hbc =>
          (h.hasLinkedid_eq hC (linked_iff_shareUniqueid.1 hbc)).symm.trans hb
    have hother : ∀ a ∈ G, hasLinkedid B a = !hasLinkedid A l := by
      intro a ha
      obtain ⟨c, hc, rfl⟩ := mem_linkedidsOf.1 (mem_of_mem_groups hG ha)
      rw [← hsame _ ha, Bool.eq_iff_iff, Bool.not_eq_true', Bool.eq_false_iff, Ne,
        hasLinkedid_iff, hasLinkedid_iff]
      constructor
      · rintro ⟨b, hb, hbc⟩ ⟨a, ha, hac⟩
        exact h.linkedid_ne a ha b hb (hac.trans hbc.symm)
      · intro hno
        exact ⟨c, (hC.mem_iff.1 hc).resolve_left fun hcA => hno ⟨c, hcA, rfl⟩, rfl⟩
    have hany : ∀ (p : String → Bool) v, (∀ a ∈ G, p a = v) → G.any p = v := by
      intro p v hp
      rw [Bool.eq_iff_iff, List.any_eq_true]
      exact ⟨fun ⟨a, ha, hpa⟩ => hp a ha ▸ hpa, fun hv => ⟨l, hl, (hp l hl).trans hv⟩⟩
    rw [hany _ _ hsame, hany _ _ hother]
  rw [h.groupCelsBySharedChannels_eq hC, h.symm.groupCelsBySharedChannels_eq hC.symm,
    CallLogd.groupCelsBySharedChannels_eq, ← List.map_append, List.filter_congr hcongr]
  exact (List.filter_append_perm _ _).symm.map _

/-- Unrelated calls do not influence each other. -/
theorem callLogsFromCel_interleaving (gen : CallLogsGenerator) (h : Unrelated A B)
    (hC : Interleaving A B C) :
    (gen.callLogsFromCel C).map CallLog.eraseUuid4 ~
      (gen.callLogsFromCel A ++ gen.callLogsFromCel B).map CallLog.eraseUuid4 := by
  have herase := CallLogsGenerator.eraseUuid4_shiftCallLog
  rw [List.map_append, gen.callLogsFromCel_map herase, gen.callLogsFromCel_map herase,
    gen.callLogsFromCel_map herase, ← List.filterMap_append]
  exact (h.groupCelsBySharedChannels_perm hC).filterMap _

/-- Two calls whose events alternate. -/
theorem callLogsFromCel_interleaving_shortCalls :
    (CallLogsGenerator.simple.callLogsFromCel
        [(shortCall 1 "1.1")[0], (shortCall 3 "1.2")[0], (shortCall 1 "1.1")[1],
          (shortCall 3 "1.2")[1]]).map CallLog.eraseUuid4 ~
      (CallLogsGenerator.simple.callLogsFromCel (shortCall 1 "1.1") ++
        CallLogsGenerator.simple.callLogsFromCel (shortCall 3 "1.2")).map CallLog.eraseUuid4 :=
  callLogsFromCel_interleaving _ ⟨by decide, by decide⟩
    (.left _ (.right _ (.left _ (.right _ .nil))))

/-! ### Permuted CELs -/

section Permuted

variable {cels cels' : List CEL}

/-- The linkedids of a group are of the CELs, whatever their order. -/
lemma linkedidGroups_eq_of_perm (h : cels' ~ cels) :
    linkedidGroups cels' = linkedidGroups cels := by
  have hchannels : channelsOf cels' = channelsOf cels := by
    funext l
    exact List.toFinset_eq_of_perm _ _ ((h.filter _).map _)
  rw [linkedidGroups, linkedidGroups, hchannels, linkedidsOf, linkedidsOf,
    distinctKeys_eq_of_perm h]

/-- CELs of different times are sorted in one way. -/
lemma groupCelsBySharedChannels_eq_of_perm (h : cels' ~ cels)
    (htimes : ∀ group ∈ groupCelsBySharedChannels cels, (group.2.map (·.eventtime)).Nodup) :
    groupCelsBySharedChannels cels' = groupCelsBySharedChannels cels := by
  rw [CallLogd.groupCelsBySharedChannels_eq, CallLogd.groupCelsBySharedChannels_eq,
    linkedidGroups_eq_of_perm h]
  refine List.map_congr_left fun G hG => congrArg (Prod.mk _) ?_
  refine sortedBy_eq_of_perm (List.Perm.flatMap_left _ fun l _ => h.filter _) ?_
  have hgroup : groupOfLinkedids cels G ∈ groupCelsBySharedChannels cels := by
    rw [CallLogd.groupCelsBySharedChannels_eq]
    exact List.mem_map_of_mem hG
  exact ((groupOfLinkedids_perm.map _).nodup_iff).1 (htimes _ hgroup)

/-- The order of the CELs does not show in the call logs, down to the draws of random
uuids, if the CELs of each group have different times. -/
theorem callLogsFromCel_eq_of_perm (gen : CallLogsGenerator) (h : cels' ~ cels)
    (htimes : ∀ group ∈ groupCelsBySharedChannels cels, (group.2.map (·.eventtime)).Nodup) :
    gen.callLogsFromCel cels' = gen.callLogsFromCel cels := by
  rw [CallLogsGenerator.callLogsFromCel, groupCelsBySharedChannels_eq_of_perm h htimes,
    CallLogsGenerator.callLogsFromCel]

/-- A call whose events come in reverse. -/
theorem callLogsFromCel_reverse_shortCall :
    CallLogsGenerator.simple.callLogsFromCel (shortCall 1 "1.1").reverse =
      CallLogsGenerator.simple.callLogsFromCel (shortCall 1 "1.1") :=
  callLogsFromCel_eq_of_perm _ (List.reverse_perm _) (by decide +kernel)

end Permuted

end CallLogd
