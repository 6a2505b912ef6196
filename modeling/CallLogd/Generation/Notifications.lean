/-
The events that announce a call log: `BusPublisher.publish_call_log`.

A user event is sent for each participant, and the participants of a user are as many as
the lines on which the user was reached, or one without any.  So the events of a user are
counted by the channels that the passes over a call leave, and by the mentions of users
without a channel.
-/
import CallLogd.Generation.Conservation
import CallLogd.Generation.Calls

namespace CallLogd

open Results

/-! ### The publisher -/

/-- The events of a call log.  A payload is what the schema makes of the call log. -/
inductive BusEvent (α : Type) where
  | callLogCreated (payload : α) (tenantUuid : Option String)
  | callLogUserCreated (payload : α) (tenantUuid : Option String) (userUuid : String)

/-- The user to whom an event is sent. -/
def BusEvent.recipient {α : Type} : BusEvent α → Option String
  | .callLogCreated _ _ => none
  | .callLogUserCreated _ _ userUuid => some userUuid

namespace BusPublisher

variable {α : Type}

/-- `publish_call_log`: the events in the order in which they are published, and the error
that ends the publication.  `dump exclude` is `CDRSchema(exclude=exclude).dump`. -/
def publishCallLog (dump : List String → CallLog → Except PyError α) :
    List CallLog → List (BusEvent α) × Option PyError
  | [] => ([], none)
  | callLog :: callLogs =>
      match dump [] callLog with
      | .error e => ([], some e)
      | .ok payload =>
          let event := .callLogCreated payload callLog.tenantUuid
          match dump ["tags"] callLog with
          | .error e => ([event], some e)
          | .ok userPayload =>
              let userEvents := callLog.participants.map fun participant =>
                .callLogUserCreated userPayload callLog.tenantUuid participant.userUuid
              let (events, error) := publishCallLog dump callLogs
              (event :: userEvents ++ events, error)

/-- The users to whom events are sent, once for each event. -/
def recipients (events : List (BusEvent α)) : List String := events.filterMap BusEvent.recipient

variable {dump : List String → CallLog → Except PyError α} {callLogs : List CallLog}
  {events : List (BusEvent α)}

/-- Without an error, an event is sent for each participant of each call log. -/
lemma recipients_of_publishCallLog (h : publishCallLog dump callLogs = (events, none)) :
    recipients events = callLogs.flatMap fun callLog => callLog.participants.map (·.userUuid) := by
  induction callLogs generalizing events with
  | nil =>
    obtain ⟨rfl, -⟩ := Prod.mk.inj h
    rfl
  | cons callLog callLogs ih =>
    rw [publishCallLog] at h
    split at h
    · cases (Prod.mk.inj h).2
    · next payload _ =>
      dsimp only at h
      split at h
      · cases (Prod.mk.inj h).2
      · next userPayload _ =>
        obtain ⟨rfl, herror⟩ := Prod.mk.inj h
        have hrest : recipients (publishCallLog dump callLogs).1 = _ := ih (Prod.ext rfl herror)
        have husers : recipients (callLog.participants.map fun participant =>
            (.callLogUserCreated userPayload callLog.tenantUuid participant.userUuid :
              BusEvent α)) = callLog.participants.map (·.userUuid) := by
          rw [recipients, List.filterMap_map]
          exact congrFun (List.filterMap_eq_map (f := CallLogParticipant.userUuid)) _
        rw [List.flatMap_cons, ← hrest, ← husers, recipients, List.cons_append,
          List.filterMap_cons, List.filterMap_append]
        rfl

end BusPublisher

/-! ### The call log of a call -/

/-- The passes of `call_logs_from_cel` over an interpreted call, down to its call log. -/
def CallLogsGenerator.completeCall (gen : CallLogsGenerator) (call : RawCallLog)
    (cache : VoicemailCache) : Except PyError CallLog := do
  let call ← gen.removeDuplicateParticipants call
  let call ← ParticipantsProcessor.fetchParticipants gen.externals gen.confd call
  let call ← gen.ensureTenantUuidIsSet call
  let call ← fillExtensionsFromParticipants call
  let call ← (gen.resolveVoicemailDestination call cache).1
  finishCall call

namespace CallLogsGenerator

variable {gen : CallLogsGenerator} {call : RawCallLog} {cache : VoicemailCache} {log : CallLog}

/-- The call log of a group is that of its interpreted call. -/
lemma callLogOfGroup_eq_completeCall (linkedids : Finset String) (cels : List CEL) :
    (gen.callLogOfGroup linkedids cels cache).1 =
      (getInterpretor cels).interpretCels gen.externals cels (newCallLog linkedids cels) >>=
        fun call => gen.completeCall call cache := by
  have hgroup : (gen.callLogOfGroup linkedids cels cache).1 =
      gen.interpretCall linkedids cels >>= fun call =>
        (gen.resolveVoicemailDestination call cache).1 >>= finishCall := by
    rw [callLogOfGroup]
    cases gen.interpretCall linkedids cels <;> rfl
  simp only [hgroup, interpretCall, completeCall, bind_assoc]

end CallLogsGenerator

/-! ### The users of the participants -/

namespace ParticipantsProcessor

variable {x : Externals} {confd : Confd} {call : RawCallLog} {userUuid : String}

/-- The users of the channels, once for each channel. -/
def channelUsers (x : Externals) (confd : Confd) (call : RawCallLog) : List String :=
  (resolvedChannels x confd call).map fun channel => channel.2.uuid

/-- The uuid under which confd knows a user. -/
def knownUuid (confd : Confd) (userUuid : String) : Option String :=
  (confd.user userUuid).toOption.map (·.uuid)

/-- The users who are mentioned and have no channel, once for each uuid that is mentioned. -/
def unreachedUsers (x : Externals) (confd : Confd) (call : RawCallLog) : List String :=
  ((call.participantsInfo.filterMap (·.userUuid)).dedup.filter
    (· ∉ channelUsers x confd call)).filterMap (knownUuid confd)

/-- The users of the channels that have been visited. -/
structure FromChannels.Users (users : List String) (acc : FromChannels) : Prop where
  participants : acc.participants.map (·.userUuid) = users
  cached : ∀ uuid p, acc.cache.get? uuid = some p → uuid ∈ users

lemma users_participantFromChannel {users : List String} {acc : FromChannels}
    {channel : String × RawParticipant} (hacc : acc.Users users) :
    Yields (participantFromChannel x confd acc channel) (FromChannels.Users
      (users ++ ((resolve x confd channel).map fun found => found.2.uuid).toList)) := by
  unfold participantFromChannel fetchParticipantFromChannel resolve
  cases hfind : findParticipant x confd channel.1 with
  | error e => exact .error
  | ok found =>
    cases found with
    | none =>
      refine .ok ⟨?_, ?_⟩
      · simpa using hacc.participants
      · simpa using hacc.cached
    | some p =>
      simp only [bind, Except.bind, pure, Except.pure]
      split
      · exact .error
      · refine .ok ⟨?_, fun uuid q hget => ?_⟩
        · simp [hacc.participants]
        · rw [Dict.get?_set] at hget
          split at hget
          · next huuid => simp [huuid]
          · exact List.mem_append_left _ (hacc.cached uuid q hget)

lemma users_computeParticipantsFromChannels :
    Yields (computeParticipantsFromChannels x confd call)
      (FromChannels.Users (channelUsers x confd call)) := by
  refine .foldlM (P := fun done (acc : FromChannels) =>
      acc.Users ((done.filterMap (resolve x confd)).map fun found => found.2.uuid)) ?_
    (fun done acc channel hacc => ?_) call.rawParticipants
  · exact ⟨rfl, fun _ _ h => by cases h⟩
  · refine (users_participantFromChannel hacc).mono fun acc' hacc' => ?_
    cases hresolve : resolve x confd channel <;> simpa [hresolve] using hacc'

lemma map_userUuid_mergeMentions (infos : List ParticipantsInfo) (ps : List CallLogParticipant) :
    (mergeMentions userUuid infos ps).map (·.userUuid) = ps.map (·.userUuid) := by
  fun_induction mergeMentions userUuid infos ps with
  | case1 infos => rfl
  | case2 ps => rfl
  | case3 info infos p ps hp ih => rw [List.map_cons, ih, List.map_cons, mergeMention]
  | case4 info infos p ps hp ih => rw [List.map_cons, ih, List.map_cons]

/-- What the loop has made of the users that have been visited: those of the channels, and
the others whom confd knows. -/
structure Participants.Users (confd : Confd) (users done : List String) (acc : Participants) :
    Prop where
  connected : acc.connected.map (·.userUuid) = users
  unreached : acc.unreached.map (·.userUuid) =
    (done.filter (· ∉ users)).filterMap (knownUuid confd)
  cached : ∀ uuid p, acc.cache.get? uuid = some p → uuid ∈ users ∨ uuid ∈ done

/-- A user who is not in the cache is asked of confd. -/
lemma fetchParticipantFromUserUuid_uuid {cache : ConfdParticipants}
    (hcache : cache.get? userUuid = none) :
    Yields (fetchParticipantFromUserUuid confd cache userUuid) fun found =>
      found.1.map (·.uuid) = knownUuid confd userUuid ∧
        ∀ uuid p, found.2.get? uuid = some p → cache.get? uuid = some p ∨ uuid = userUuid := by
  unfold fetchParticipantFromUserUuid findParticipantByUuid Confd.findUser knownUuid
  rw [hcache]
  cases huser : confd.user userUuid with
  | ok user =>
    refine .ok ⟨rfl, fun uuid p hget => ?_⟩
    rw [Dict.get?_set] at hget
    split at hget
    · next huuid => exact .inr huuid
    · exact .inl hget
  | error e =>
    cases e with
    | httpError => exact .ok ⟨rfl, fun uuid p hget => .inl hget⟩
    | _ => exact .error

namespace Participants.Users

variable {users done : List String} {acc acc' : Participants}

/-- A user who has a channel adds no participant. -/
lemma same (h : acc.Users confd users done) (hmem : userUuid ∈ users)
    (hconnected : acc'.connected.map (·.userUuid) = users)
    (hunreached : acc'.unreached = acc.unreached) (hcache : acc'.cache = acc.cache) :
    acc'.Users confd users (done ++ [userUuid]) := by
  have hfilter : (done ++ [userUuid]).filter (· ∉ users) = done.filter (· ∉ users) := by
    simp [List.filter_append, hmem]
  refine ⟨hconnected, ?_, fun uuid p hget => ?_⟩
  · rw [hfilter, hunreached]
    exact h.unreached
  · rw [hcache] at hget
    exact (h.cached uuid p hget).imp_right (List.mem_append_left _)

/-- A user without a channel adds a participant if confd knows the user. -/
lemma concat (h : acc.Users confd users done) (hnone : userUuid ∉ users)
    (hconnected : acc'.connected = acc.connected)
    (hunreached : acc'.unreached.map (·.userUuid) =
      acc.unreached.map (·.userUuid) ++ (knownUuid confd userUuid).toList)
    (hcache : ∀ uuid p, acc'.cache.get? uuid = some p →
      acc.cache.get? uuid = some p ∨ uuid = userUuid) :
    acc'.Users confd users (done ++ [userUuid]) := by
  have hfilter : (done ++ [userUuid]).filter (· ∉ users) =
      done.filter (· ∉ users) ++ [userUuid] := by
    simp [List.filter_append, hnone]
  refine ⟨hconnected ▸ h.connected, ?_, fun uuid p hget => ?_⟩
  · rw [hfilter, List.filterMap_append, ← h.unreached, hunreached]
    cases hknown : knownUuid confd userUuid <;> simp [hknown]
  · rcases hcache uuid p hget with hget | rfl
    · exact (h.cached uuid p hget).imp_right (List.mem_append_left _)
    · exact .inr (by simp)

end Participants.Users

lemma users_participantsOfUser {users done : List String} {acc : Participants}
    (hnew : userUuid ∉ done) (hacc : acc.Users confd users done) :
    Yields (participantsOfUser confd call.participantsInfo acc userUuid)
      (Participants.Users confd users (done ++ [userUuid])) := by
  have hempty : (acc.connected.filter fun p => p.userUuid = userUuid) = [] ↔ userUuid ∉ users := by
    rw [← hacc.connected, List.filter_eq_nil_iff]
    simp
  unfold participantsOfUser
  extract_lets found infos
  split
  case isTrue hnil =>
    have hnone := hempty.1 hnil
    have huncached : acc.cache.get? userUuid = none := by
      cases hget : acc.cache.get? userUuid with
      | none => rfl
      | some p => exact absurd (hacc.cached userUuid p hget) (not_or.2 ⟨hnone, hnew⟩)
    refine .bind fun found hfound => ?_
    obtain ⟨huuid, hcache⟩ := fetchParticipantFromUserUuid_uuid huncached found hfound
    obtain ⟨found, cache⟩ := found
    cases found with
    | none => exact .pure (hacc.concat hnone rfl (by simp [← huuid]) hcache)
    | some p =>
      dsimp only
      split
      · exact .error
      · split
        · exact .error
        · exact .pure (hacc.concat hnone rfl (by simp [← huuid]) hcache)
  case isFalse hsome =>
    have hmem : userUuid ∈ users := not_not.1 fun hnone => hsome (hempty.2 hnone)
    split
    · exact .pure (hacc.same hmem ((map_userUuid_mergeMentions _ _).trans hacc.connected) rfl rfl)
    · exact .pure (hacc.same hmem hacc.connected rfl rfl)

/-- The users of the participants: those of the channels, and those who were not reached. -/
lemma users_fetchParticipants : Yields (fetchParticipants x confd call) fun call' =>
    (call'.participants.map (·.userUuid)).Perm
      (channelUsers x confd call ++ unreachedUsers x confd call) := by
  unfold fetchParticipants
  refine .bind fun channels hchannels => ?_
  have hmade := users_computeParticipantsFromChannels channels hchannels
  extract_lets usersFromCel usersFromChannels userUuids
  refine .bind fun acc hacc => .pure ?_
  have husers : acc.Users confd (channelUsers x confd call) userUuids := by
    refine Yields.foldlM (P := fun done acc => done.Nodup →
      acc.Users confd (channelUsers x confd call) done) ?_ ?_ userUuids acc hacc
      (x.setOrder.nodup _)
    · exact fun _ => ⟨hmade.participants, rfl, fun uuid p hget => .inl (hmade.cached uuid p hget)⟩
    · intro done acc userUuid hdone acc' hacc' hnodup
      obtain ⟨hnodup, -, hdisjoint⟩ := List.nodup_append.1 hnodup
      refine users_participantsOfUser (fun hmem => ?_) (hdone hnodup) acc' hacc'
      exact hdisjoint userUuid hmem userUuid (List.mem_singleton_self _) rfl
  have hunreached : (userUuids.filter (· ∉ channelUsers x confd call)).Perm
      (usersFromCel.dedup.filter (· ∉ channelUsers x confd call)) := by
    refine (List.perm_ext_iff_of_nodup ((x.setOrder.nodup _).filter _)
      ((List.nodup_dedup _).filter _)).2 fun uuid => ?_
    have hchannels : uuid ∈ usersFromChannels ↔ uuid ∈ channelUsers x confd call := by
      rw [← hmade.participants]
    simp only [List.mem_filter, decide_eq_true_eq, x.setOrder.mem_visit,
      List.mem_append, List.mem_dedup, hchannels]
    tauto
  rw [List.map_append, husers.connected, husers.unreached]
  exact (hunreached.filterMap _).append_left _

/-- If confd knows each user under the uuid that it is asked for, those who were not reached
are apart from the others. -/
lemma nodup_users_iff
    (hconfd : ∀ uuid user, confd.user uuid = .ok user → user.uuid = uuid) :
    (channelUsers x confd call ++ unreachedUsers x confd call).Nodup ↔
      (channelUsers x confd call).Nodup := by
  have hknown : ∀ uuid, ∀ uuid' ∈ knownUuid confd uuid, uuid' = uuid := by
    intro uuid uuid' huuid'
    rw [knownUuid] at huuid'
    cases huser : confd.user uuid with
    | error e => simp [huser, Except.toOption] at huuid'
    | ok user =>
      rw [huser] at huuid'
      exact (Option.some.inj huuid').symm.trans (hconfd uuid user huser)
  have hnodup : (unreachedUsers x confd call).Nodup := by
    refine ((List.nodup_dedup _).filter _).filterMap fun uuid₁ uuid₂ uuid h₁ h₂ => ?_
    rw [← hknown uuid₁ uuid h₁, ← hknown uuid₂ uuid h₂]
  have hdisjoint : ∀ uuid ∈ channelUsers x confd call, ∀ uuid' ∈ unreachedUsers x confd call,
      uuid ≠ uuid' := by
    rintro uuid hchannel uuid' hunreached rfl
    obtain ⟨uuid'', hmem, hfound⟩ := List.mem_filterMap.1 hunreached
    obtain rfl := hknown uuid'' uuid hfound
    exact of_decide_eq_true (List.mem_filter.1 hmem).2 hchannel
  rw [List.nodup_append]
  exact ⟨fun h => h.1, fun h => ⟨h, hnodup, hdisjoint⟩⟩

end ParticipantsProcessor

/-! ### The events of a call -/

lemma RawCallLog.participants_setTenantUuid (call : RawCallLog) (tenantUuid : String) :
    (call.setTenantUuid tenantUuid).participants = call.participants :=
  part_setTenantUuid (fun _ _ => rfl) tenantUuid

namespace CallLogsGenerator

open ParticipantsProcessor BusPublisher

variable {gen : CallLogsGenerator} {call : RawCallLog} {cache : VoicemailCache} {log : CallLog}
  {α : Type} {dump : List String → CallLog → Except PyError α} {events : List (BusEvent α)}

lemma participants_fillSourceExtension (call : RawCallLog) (p : RawParticipant) :
    (fillSourceExtension call p).participants = call.participants := by
  rw [fillSourceExtension]
  split
  · rfl
  · split <;> rfl

lemma participants_fillDestinationExtension (call : RawCallLog) (p : RawParticipant) :
    (fillDestinationExtension call p).participants = call.participants := by
  rw [fillDestinationExtension]
  split
  · rfl
  · dsimp only
    split <;> split <;> rfl

/-- The passes that come after the participants have been fetched keep them. -/
lemma users_completeCall (h : gen.completeCall call cache = .ok log) :
    ∃ kept, gen.removeDuplicateParticipants call = .ok kept ∧
      (log.participants.map (·.userUuid)).Perm (channelUsers gen.externals gen.confd kept ++
        unreachedUsers gen.externals gen.confd kept) := by
  obtain ⟨kept, hkept, h⟩ := exists_of_bind_eq_ok h
  obtain ⟨call₁, hfetch, h⟩ := exists_of_bind_eq_ok h
  obtain ⟨call₂, htenant, h⟩ := exists_of_bind_eq_ok h
  obtain ⟨call₃, hextensions, h⟩ := exists_of_bind_eq_ok h
  obtain ⟨call₄, hvoicemail, h⟩ := exists_of_bind_eq_ok h
  obtain ⟨voicemail, rfl⟩ := resolveVoicemailDestination_eq_ok hvoicemail
  have hsupersede : (supersedeDestination call₃ voicemail).participants = call₃.participants := by
    cases voicemail <;> rfl
  have hfinish : log.participants = (supersedeDestination call₃ voicemail).participants := by
    rw [(finishCall_eq_ok h).2]
    rfl
  have hparticipants : log.participants = call₁.participants := by
    rw [hfinish, hsupersede,
      yields_fillExtensionsFromParticipants (g := RawCallLog.participants)
        participants_fillSourceExtension participants_fillDestinationExtension call₃ hextensions,
      yields_ensureTenantUuidIsSet (g := RawCallLog.participants)
        RawCallLog.participants_setTenantUuid call₂ htenant]
  rw [hparticipants]
  exact ⟨kept, hkept, users_fetchParticipants call₁ hfetch⟩

/-- Each user among the participants is sent one event. -/
def OncePerUser (log : CallLog) (events : List (BusEvent α)) : Prop :=
  ∀ participant ∈ log.participants, (recipients events).count participant.userUuid = 1

lemma recipients_singleton (h : publishCallLog dump [log] = (events, none)) :
    recipients events = log.participants.map (·.userUuid) := by
  rw [recipients_of_publishCallLog h, List.flatMap_cons, List.flatMap_nil, List.append_nil]

lemma oncePerUser_iff_nodup (h : publishCallLog dump [log] = (events, none)) :
    OncePerUser log events ↔ (log.participants.map (·.userUuid)).Nodup := by
  rw [OncePerUser, recipients_singleton h, List.nodup_iff_count_eq_one]
  simp only [List.mem_map, forall_exists_index, and_imp, forall_apply_eq_imp_iff₂]

/-- A user is sent an event for each channel of the user that is left, and for each mention of
the user without a channel. -/
theorem recipients_publishCallLog (gen : CallLogsGenerator) (call : RawCallLog)
    (cache : VoicemailCache) (hlog : gen.completeCall call cache = .ok log)
    (hpublish : publishCallLog dump [log] = (events, none)) :
    ∃ kept, gen.removeDuplicateParticipants call = .ok kept ∧
      (recipients events).Perm (channelUsers gen.externals gen.confd kept ++
        unreachedUsers gen.externals gen.confd kept) ∧
      (OncePerUser log events ↔ (channelUsers gen.externals gen.confd kept ++
        unreachedUsers gen.externals gen.confd kept).Nodup) := by
  obtain ⟨kept, hkept, hperm⟩ := users_completeCall hlog
  refine ⟨kept, hkept, ?_, ?_⟩
  · rw [recipients_singleton hpublish]
    exact hperm
  · rw [oncePerUser_iff_nodup hpublish]
    exact hperm.nodup_iff

/-- Where confd knows each user under the uuid that it is asked for, each user is sent one event
if, and only if, no user is reached on two lines. -/
theorem oncePerUser_iff
    (hconfd : ∀ uuid user, gen.confd.user uuid = .ok user → user.uuid = uuid)
    (hlog : gen.completeCall call cache = .ok log)
    (hpublish : publishCallLog dump [log] = (events, none)) :
    ∃ kept, gen.removeDuplicateParticipants call = .ok kept ∧
      (OncePerUser log events ↔ (channelUsers gen.externals gen.confd kept).Nodup) := by
  obtain ⟨kept, hkept, hperm⟩ := users_completeCall hlog
  refine ⟨kept, hkept, ?_⟩
  rw [oncePerUser_iff_nodup hpublish, hperm.nodup_iff, nodup_users_iff hconfd]

/-- The events of a group are for the users of the call that its interpretor makes of it. -/
theorem recipients_callLogOfGroup {linkedids : Finset String} {cels : List CEL}
    (hlog : (gen.callLogOfGroup linkedids cels cache).1 = .ok log)
    (hpublish : publishCallLog dump [log] = (events, none)) :
    ∃ call kept, (getInterpretor cels).interpretCels gen.externals cels
        (newCallLog linkedids cels) = .ok call ∧
      gen.removeDuplicateParticipants call = .ok kept ∧
      (recipients events).Perm (channelUsers gen.externals gen.confd kept ++
        unreachedUsers gen.externals gen.confd kept) := by
  rw [callLogOfGroup_eq_completeCall] at hlog
  obtain ⟨call, hcall, hcomplete⟩ := exists_of_bind_eq_ok hlog
  obtain ⟨kept, hkept, hperm⟩ := users_completeCall hcomplete
  refine ⟨call, kept, hcall, hkept, ?_⟩
  rw [recipients_singleton hpublish]
  exact hperm

/-- A call from Alice to the lines of a user. -/
def callToLines (channels : List String) (participantsInfo : List ParticipantsInfo) :
    RawCallLog where
  date := some 0
  sourceName := some "Alice"
  tenantUuid := some "54eb71f8"
  rawParticipants := channels.map fun channel => (channel, { role := some .destination })
  participantsInfo := participantsInfo

/-- A generator whose confd knows every user. -/
def everyUserGenerator : CallLogsGenerator := { CallLogsGenerator.simple with confd := everyUser }

/-- The conversation of a call log stands for its payload. -/
def dumpConversation (_ : List String) (log : CallLog) : Except PyError (Option String) :=
  .ok log.conversationId

lemma exists_publishCallLog (call : RawCallLog) (users : List String)
    (h : (everyUserGenerator.completeCall call []).map
      (fun log => log.participants.map (·.userUuid)) = .ok users) :
    ∃ log events, everyUserGenerator.completeCall call [] = .ok log ∧
      publishCallLog dumpConversation [log] = (events, none) ∧
        log.participants.map (·.userUuid) = users := by
  obtain ⟨log, hlog, husers⟩ := exists_of_map_eq_ok h
  exact ⟨log, _, hlog, rfl, husers⟩

/-- One user is reached on a line, and another one is mentioned. -/
def callWithUnreached : RawCallLog :=
  callToLines ["PJSIP/line1-00000001"] [{ userUuid := "71ea0bc2", role := some .destination }]

theorem recipients_callWithUnreached : ∃ log events,
    everyUserGenerator.completeCall callWithUnreached [] = .ok log ∧
      publishCallLog dumpConversation [log] = (events, none) ∧
      (recipients events).Perm ["0a5bd3a4", "71ea0bc2"] ∧ OncePerUser log events := by
  obtain ⟨log, events, hlog, hpublish, -⟩ :=
    exists_publishCallLog callWithUnreached ["0a5bd3a4", "71ea0bc2"] (by decide +kernel)
  obtain ⟨kept, hkept, hperm, honce⟩ :=
    recipients_publishCallLog everyUserGenerator callWithUnreached [] hlog hpublish
  obtain rfl : callWithUnreached = kept := Except.ok.inj (.trans (by decide +kernel) hkept)
  have husers : channelUsers everyUserGenerator.externals everyUserGenerator.confd
      callWithUnreached ++ unreachedUsers everyUserGenerator.externals everyUserGenerator.confd
        callWithUnreached = ["0a5bd3a4", "71ea0bc2"] := by
    decide +kernel
  rw [husers] at hperm honce
  exact ⟨log, events, hlog, hpublish, hperm, honce.2 (by decide)⟩

def callToTwoLines : RawCallLog :=
  callToLines ["PJSIP/line1-00000001", "PJSIP/line2-00000002"] []

/-- A user who is reached on two lines is sent two events. -/
theorem not_oncePerUser_callToTwoLines : ∃ log events,
    everyUserGenerator.completeCall callToTwoLines [] = .ok log ∧
      publishCallLog dumpConversation [log] = (events, none) ∧ ¬OncePerUser log events := by
  obtain ⟨log, events, hlog, hpublish, husers⟩ :=
    exists_publishCallLog callToTwoLines ["0a5bd3a4", "0a5bd3a4"] (by decide +kernel)
  refine ⟨log, events, hlog, hpublish, ?_⟩
  rw [oncePerUser_iff_nodup hpublish, husers]
  decide

end CallLogsGenerator

end CallLogd
