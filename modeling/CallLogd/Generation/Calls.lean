/-
The call log of one group of CELs.

The passes over an interpreted call keep its CELs and its conversation, and touch
its recordings only where they are meant to.
-/
import CallLogd.Interpretor.Frame
import CallLogd.Generation.Batches

namespace CallLogd

open Results

namespace CallLogsGenerator

variable {gen : CallLogsGenerator} {call : RawCallLog}

lemma keeps_removeDuplicateParticipants : Keeps call (gen.removeDuplicateParticipants call) :=
  .bind fun _ _ => .pure rfl

lemma keeps_fetchParticipants (x : Externals) (confd : Confd) :
    Keeps call (ParticipantsProcessor.fetchParticipants x confd call) :=
  .bind fun _ _ => .bind fun _ _ => .pure rfl

/-- What setting a tenant keeps is kept. -/
lemma yields_ensureTenantUuidIsSet {β : Type*} {g : RawCallLog → β}
    (hg : ∀ (c : RawCallLog) (tenantUuid : String), g (c.setTenantUuid tenantUuid) = g c) :
    Yields (gen.ensureTenantUuidIsSet call) fun call' => g call' = g call := by
  have hfold : ∀ (tenantUuids : List String) (c : RawCallLog),
      g (tenantUuids.foldl RawCallLog.setTenantUuid c) = g c := by
    intro tenantUuids
    induction tenantUuids with
    | nil => exact fun _ => rfl
    | cons t ts ih => exact fun c => (ih _).trans (hg c t)
  unfold ensureTenantUuidIsSet
  extract_lets tenantUuids call₁
  have hcall₁ : g call₁ = g call := hfold _ _
  split
  · exact .pure hcall₁
  · refine .bind fun tenants _ => ?_
    split <;> exact .pure ((hg _ _).trans hcall₁)

lemma keeps_ensureTenantUuidIsSet : Keeps call (gen.ensureTenantUuidIsSet call) :=
  yields_ensureTenantUuidIsSet fun _ => frame_setTenantUuid

lemma frame_fillSourceExtension (p : RawParticipant) :
    (fillSourceExtension call p).frame = call.frame := by
  rw [fillSourceExtension]
  split
  · rfl
  · split <;> rfl

lemma frame_fillDestinationExtension (p : RawParticipant) :
    (fillDestinationExtension call p).frame = call.frame := by
  rw [fillDestinationExtension]
  split
  · rfl
  · dsimp only
    split <;> split <;> rfl

/-- What filling in an extension keeps is kept. -/
lemma yields_fillExtensionsFromParticipants {β : Type*} {g : RawCallLog → β}
    (hsource : ∀ c p, g (fillSourceExtension c p) = g c)
    (hdestination : ∀ c p, g (fillDestinationExtension c p) = g c) :
    Yields (fillExtensionsFromParticipants call) fun call' => g call' = g call := by
  have hfold : ∀ (f : RawCallLog → RawParticipant → RawCallLog), (∀ c p, g (f c p) = g c) →
      ∀ (ps : List RawParticipant) (c : RawCallLog), g (ps.foldl f c) = g c := by
    intro f hf ps
    induction ps with
    | nil => exact fun _ => rfl
    | cons p ps ih => exact fun c => (ih _).trans (hf c p)
  rw [fillExtensionsFromParticipants]
  dsimp only
  split
  · exact .error
  · exact .ok ((hfold _ hdestination _ _).trans (hfold _ hsource _ _))

lemma keeps_fillExtensionsFromParticipants :
    Keeps call (fillExtensionsFromParticipants call) :=
  yields_fillExtensionsFromParticipants (fun _ => frame_fillSourceExtension)
    fun _ => frame_fillDestinationExtension

/-- The frame of a call when the voicemail is looked up. -/
lemma frame_interpretCall (linkedids : Finset String) (cels : List CEL) :
    Yields (gen.interpretCall linkedids cels) fun call => call.frame =
      { (newCallLog linkedids cels).frame with
        recordings := (getInterpretor cels).recordings gen.externals cels [] } := by
  rw [interpretCall]
  refine .bind fun call₁ h₁ => .bind fun call₂ h₂ => .bind fun call₃ h₃ => .bind fun call₄ h₄ => ?_
  have hcall₁ := (getInterpretor cels).frame_interpretCels cels call₁ h₁
  have hcall₄ : call₄.frame = call₁.frame :=
    (keeps_ensureTenantUuidIsSet call₄ h₄).trans <|
      (keeps_fetchParticipants _ _ call₃ h₃).trans (keeps_removeDuplicateParticipants call₂ h₂)
  exact keeps_fillExtensionsFromParticipants.mono fun call₅ hcall₅ =>
    hcall₅.trans (hcall₄.trans hcall₁)

lemma frame_supersedeDestination (voicemail : Option Voicemail) :
    (supersedeDestination call voicemail).frame = call.frame := by
  cases voicemail <;> rfl

/-- The voicemail lookup only supersedes the destination. -/
lemma resolveVoicemailDestination_eq_ok {cache : VoicemailCache} {call' : RawCallLog}
    (h : (gen.resolveVoicemailDestination call cache).1 = .ok call') :
    ∃ voicemail, call' = supersedeDestination call voicemail := by
  rw [resolveVoicemailDestination] at h
  split at h
  · exact ⟨none, (Except.ok.inj h).symm⟩
  · obtain ⟨voicemail, -, rfl⟩ := exists_of_map_eq_ok h
    exact ⟨voicemail, rfl⟩

/-- The recordings that a call log keeps of those of its call. -/
def finishRecordings (call : RawCallLog) : List Recording :=
  mergePauses (removeRecordingsForUnansweredCalls (removeIncompleteRecordings call)).recordings

/-- A finished call has a date, and only its recordings have changed. -/
lemma finishCall_eq_ok {log : CallLog} (h : finishCall call = .ok log) :
    call.date ≠ none ∧ log = { call.fillCallLog with recordings := finishRecordings call } := by
  have hrest : handleRecordingPauses (removeRecordingsForUnansweredCalls
      (removeIncompleteRecordings call)) = { call with recordings := finishRecordings call } := by
    rw [finishRecordings, handleRecordingPauses, removeRecordingsForUnansweredCalls]
    split <;> rfl
  rw [finishCall, hrest, RawCallLog.toCallLog] at h
  split at h
  · cases h
  · next hdate =>
    split at h
    · cases h
    · exact ⟨hdate, (Except.ok.inj h).symm⟩

/-- The call log of a group comes from a call that went through all the passes. -/
lemma callLogOfGroup_eq_ok {linkedids : Finset String} {cels : List CEL} {cache : VoicemailCache}
    {log : CallLog} (h : (gen.callLogOfGroup linkedids cels cache).1 = .ok log) :
    ∃ call voicemail, gen.interpretCall linkedids cels = .ok call ∧
      finishCall (supersedeDestination call voicemail) = .ok log := by
  rw [callLogOfGroup] at h
  split at h
  · cases h
  · next call hcall =>
      obtain ⟨call', hresolve, hfinish⟩ := exists_of_bind_eq_ok h
      obtain ⟨voicemail, rfl⟩ := resolveVoicemailDestination_eq_ok hresolve
      exact ⟨call, voicemail, hcall, hfinish⟩

/-- A group with a call log has ended, and its call went through all the passes. -/
lemma finishCall_of_logOfGroup {group : Finset String × List CEL} {log : CallLog}
    (h : gen.logOfGroup group = some log) :
    group.1 = terminatedLinks group.2 ∧ ∃ call voicemail,
      gen.interpretCall group.1 group.2 = .ok call ∧
        finishCall (supersedeDestination call voicemail) = .ok log := by
  rw [logOfGroup] at h
  split at h
  · cases h
  · next hended =>
      cases hlog : (gen.callLogOfGroup group.1 group.2 []).1 with
      | error e => simp [hlog, Except.toOption] at h
      | ok log' =>
          obtain rfl : log' = log := by simpa [hlog, Except.toOption] using h
          exact ⟨not_not.1 hended, callLogOfGroup_eq_ok hlog⟩

/-- The passes keep the CELs and the conversation of a new call. -/
lemma keys_of_finishCall {linkedids : Finset String} {cels : List CEL} {log : CallLog}
    {voicemail : Option Voicemail} (hcall : gen.interpretCall linkedids cels = .ok call)
    (hfinish : finishCall (supersedeDestination call voicemail) = .ok log) :
    log.celIds = cels.map (·.id) ∧ log.conversationId = some (linkedids.min.untopD "") := by
  obtain ⟨-, rfl⟩ := finishCall_eq_ok hfinish
  have hframe := (frame_supersedeDestination voicemail).trans
    (frame_interpretCall linkedids cels call hcall)
  exact ⟨congrArg CallFrame.celIds hframe, congrArg CallFrame.conversationId hframe⟩

/-- The call log of a group has the CELs of the group, and the conversation of its
smallest linkedid. -/
lemma logOfGroup_eq_some {group : Finset String × List CEL} {log : CallLog}
    (h : gen.logOfGroup group = some log) :
    log.celIds = group.2.map (·.id) ∧ log.conversationId = some (group.1.min.untopD "") := by
  obtain ⟨-, call, voicemail, hcall, hfinish⟩ := finishCall_of_logOfGroup h
  exact keys_of_finishCall hcall hfinish

end CallLogsGenerator

/-! ### The CELs of the call logs -/

/-- The CELs of the conversation of a call log are not in another one. -/
def ExclusiveConversation (cels : List CEL) (log log' : CallLog) : Prop :=
  ∀ c ∈ cels, log.conversationId = some c.linkedid → c.id ∉ log'.celIds

variable {gen : CallLogsGenerator} {cels : List CEL} {G : List String} {log : CallLog}

/-- The conversation of a group is the linkedid that founded it. -/
lemma min_untopD_toFinset (hG : G ∈ linkedidGroups cels) :
    some (G.toFinset.min.untopD "") = G.head? := by
  obtain ⟨l, ls, rfl⟩ := List.exists_cons_of_ne_nil (Correlation.groups_ne_nil hG)
  have hsorted := linkedidsOf_sortedLT.pairwise.sublist (Correlation.sublist_of_mem_groups hG)
  have hmin : (l :: ls).toFinset.min = l := by
    refine le_antisymm (Finset.min_le (by simp)) (Finset.le_min fun a ha => ?_)
    rcases List.mem_cons.1 (List.mem_toFinset.1 ha) with rfl | ha
    · exact le_rfl
    · exact WithTop.coe_le_coe.2 ((List.pairwise_cons.1 hsorted).1 a ha).le
  rw [hmin]
  rfl

/-- The conversations and the CELs of the call logs are those of the groups that
yield one. -/
lemma map_callLogsFromCel :
    (gen.callLogsFromCel cels).map (fun log => (log.conversationId, log.celIds)) =
      ((linkedidGroups cels).filter fun G =>
        (gen.logOfGroup (groupOfLinkedids cels G)).isSome).map fun G =>
          (G.head?, (groupOfLinkedids cels G).2.map (·.id)) := by
  rw [gen.callLogsFromCel_map fun _ _ => rfl, groupCelsBySharedChannels_eq, List.filterMap_map,
    ← List.filterMap_eq_map', List.filterMap_filter]
  refine List.filterMap_congr fun G hG => ?_
  rw [Function.comp_apply]
  cases hlog : gen.logOfGroup (groupOfLinkedids cels G) with
  | none => rfl
  | some log =>
      obtain ⟨hcelIds, hconversationId⟩ := CallLogsGenerator.logOfGroup_eq_some hlog
      rw [Option.map_some, hcelIds, hconversationId, ← min_untopD_toFinset hG]
      rfl

lemma exists_group_of_mem_callLogsFromCel (h : log ∈ gen.callLogsFromCel cels) :
    ∃ G ∈ linkedidGroups cels, log.conversationId = G.head? ∧
      log.celIds = (groupOfLinkedids cels G).2.map (·.id) := by
  have hmem := List.mem_map_of_mem (f := fun log => (log.conversationId, log.celIds)) h
  rw [map_callLogsFromCel, List.mem_map] at hmem
  obtain ⟨G, hG, heq⟩ := hmem
  obtain ⟨hconversationId, hcelIds⟩ := Prod.mk.inj heq
  exact ⟨G, List.mem_of_mem_filter hG, hconversationId.symm, hcelIds.symm⟩

/-- A call log only has CELs that the generator was given. -/
lemma exists_of_mem_celIds (h : log ∈ gen.callLogsFromCel cels) {k : ℕ} (hk : k ∈ log.celIds) :
    ∃ c ∈ cels, c.id = k := by
  obtain ⟨G, -, -, hcelIds⟩ := exists_group_of_mem_callLogsFromCel h
  rw [hcelIds, List.mem_map] at hk
  obtain ⟨c, hc, hck⟩ := hk
  exact ⟨c, (mem_groupOfLinkedids.1 hc).1, hck⟩

/-- A CEL is in a call log exactly if a group that has it yields one. -/
lemma exists_mem_celIds_iff {k : ℕ} :
    (∃ log ∈ gen.callLogsFromCel cels, k ∈ log.celIds) ↔
      ∃ group ∈ groupCelsBySharedChannels cels, (gen.logOfGroup group).isSome ∧
        k ∈ group.2.map (·.id) := by
  have hmap := gen.callLogsFromCel_map (f := CallLog.celIds) (fun _ _ => rfl) cels
  have hlogs : (∃ log ∈ gen.callLogsFromCel cels, k ∈ log.celIds) ↔
      ∃ ids ∈ (gen.callLogsFromCel cels).map CallLog.celIds, k ∈ ids := by simp
  rw [hlogs, hmap]
  constructor
  · rintro ⟨ids, hids, hk⟩
    obtain ⟨group, hgroup, hlog⟩ := List.mem_filterMap.1 hids
    obtain ⟨log, hsome, rfl⟩ := Option.map_eq_some_iff.1 hlog
    refine ⟨group, hgroup, Option.isSome_of_eq_some hsome, ?_⟩
    rwa [← (CallLogsGenerator.logOfGroup_eq_some hsome).1]
  · rintro ⟨group, hgroup, hsome, hk⟩
    obtain ⟨log, hlog⟩ := Option.isSome_iff_exists.1 hsome
    refine ⟨log.celIds, List.mem_filterMap.2 ⟨group, hgroup, by rw [hlog]; rfl⟩, ?_⟩
    rwa [(CallLogsGenerator.logOfGroup_eq_some hlog).1]

/-- A call log has a CEL of its conversation. -/
lemma exists_cel_of_conversation (h : log ∈ gen.callLogsFromCel cels) :
    ∃ c ∈ cels, log.conversationId = some c.linkedid ∧ c.id ∈ log.celIds := by
  obtain ⟨G, hG, hconversationId, hcelIds⟩ := exists_group_of_mem_callLogsFromCel h
  obtain ⟨l, ls, rfl⟩ := List.exists_cons_of_ne_nil (Correlation.groups_ne_nil hG)
  obtain ⟨c, hc, rfl⟩ := mem_linkedidsOf.1 (Correlation.mem_of_mem_groups hG List.mem_cons_self)
  refine ⟨c, hc, hconversationId, hcelIds ▸ List.mem_map_of_mem ?_⟩
  exact mem_groupOfLinkedids.2 ⟨hc, List.mem_cons_self⟩

variable (gen) in
/-- The conversations of the call logs of a batch are exclusive. -/
lemma pairwise_exclusiveConversation (hnd : (cels.map (·.id)).Nodup) :
    (gen.callLogsFromCel cels).Pairwise fun log log' =>
      ExclusiveConversation cels log log' ∧ ExclusiveConversation cels log' log := by
  -- a CEL of the first linkedid of one group is not in the other
  have key : ∀ G H : List String, (∀ l ∈ G.head?, l ∉ H) → ∀ c ∈ cels, G.head? = some c.linkedid →
      c.id ∉ (groupOfLinkedids cels H).2.map (·.id) := by
    intro G H hGH c hc hhead hmem
    obtain ⟨d, hd, hdc⟩ := List.mem_map.1 hmem
    obtain ⟨hd, hdH⟩ := mem_groupOfLinkedids.1 hd
    obtain rfl := List.inj_on_of_nodup_map hnd hd hc hdc
    exact hGH _ hhead hdH
  have hpw : ((gen.callLogsFromCel cels).map fun log => (log.conversationId, log.celIds)).Pairwise
      fun p q => (∀ c ∈ cels, p.1 = some c.linkedid → c.id ∉ q.2) ∧
        ∀ c ∈ cels, q.1 = some c.linkedid → c.id ∉ p.2 := by
    rw [map_callLogsFromCel, List.pairwise_map]
    refine List.Pairwise.filter _ ((Correlation.groups_pairwise_head linkedidsOf_nodup).imp ?_)
    exact fun h => ⟨key _ _ h.1, key _ _ h.2⟩
  exact List.pairwise_map.1 hpw

end CallLogd
