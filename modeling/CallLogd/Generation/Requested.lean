/-
What becomes of the mention of the user who was requested.

The mentions of a user in the CELs and the participants from the user's channels are
matched one to one, or not at all; without a channel the last mention counts.
-/
import CallLogd.Participants
import CallLogd.Lib.Results

namespace CallLogd

open Results ParticipantsProcessor

/-- `CallLog.requested_user_uuid`. -/
def requestedUserUuid (participants : List CallLogParticipant) : Option String :=
  (participants.find? fun p => p.requested = some true).map (·.userUuid)

namespace ParticipantsProcessor

/-! ### The channels and the mentions of a user -/

/-- Confd finds the user of a channel. -/
def ofUser (x : Externals) (confd : Confd) (userUuid : String)
    (channel : String × RawParticipant) : Bool :=
  match findParticipant x confd channel.1 with
  | .ok (some p) => p.uuid = userUuid
  | _ => false

def channelsOf (x : Externals) (confd : Confd) (call : RawCallLog) (userUuid : String) :
    List (String × RawParticipant) :=
  call.rawParticipants.filter (ofUser x confd userUuid)

def mentionsOf (call : RawCallLog) (userUuid : String) : List ParticipantsInfo :=
  call.participantsInfo.filter fun info => info.userUuid = some userUuid

def participantsOf (participants : List CallLogParticipant) (userUuid : String) :
    List CallLogParticipant :=
  participants.filter fun p => p.userUuid = userUuid

/-- The users of the cache are found under their uuids. -/
def Keyed (cache : ConfdParticipants) : Prop := ∀ uuid p, cache.get? uuid = some p → p.uuid = uuid

variable {x : Externals} {confd : Confd} {call : RawCallLog} {userUuid : String}
  {cache : ConfdParticipants}

lemma Keyed.set (hcache : Keyed cache) {p : ParticipantInfo} {uuid : String} (hp : p.uuid = uuid) :
    Keyed (cache.set uuid p) := by
  intro uuid' p' hget
  rw [Dict.get?_set] at hget
  split at hget
  case isTrue h =>
    rw [← Option.some.inj hget, hp, h]
  case isFalse => exact hcache uuid' p' hget

/-! ### From the channels -/

/-- What has been made of some channels. -/
structure FromChannels.Made (x : Externals) (confd : Confd)
    (channels : List (String × RawParticipant)) (acc : FromChannels) : Prop where
  length_eq : ∀ userUuid, (participantsOf acc.participants userUuid).length =
    (channels.filter (ofUser x confd userUuid)).length
  requested_eq : ∀ p ∈ acc.participants, p.requested = none
  keyed : Keyed acc.cache

lemma made_participantFromChannel {done : List (String × RawParticipant)} {acc : FromChannels}
    {channel : String × RawParticipant} (hmade : acc.Made x confd done) :
    Yields (participantFromChannel x confd acc channel)
      (FromChannels.Made x confd (done ++ [channel])) := by
  have hlength : ∀ userUuid, ((done ++ [channel]).filter (ofUser x confd userUuid)).length =
      (done.filter (ofUser x confd userUuid)).length +
        if ofUser x confd userUuid channel then 1 else 0 := by
    intro userUuid
    rw [List.filter_append, List.length_append]
    by_cases h : ofUser x confd userUuid channel <;> simp [h]
  unfold participantFromChannel fetchParticipantFromChannel
  cases hfind : findParticipant x confd channel.1 with
  | error e => exact .error
  | ok found =>
    cases found with
    | none =>
      refine .ok ⟨fun userUuid => ?_, hmade.requested_eq, hmade.keyed⟩
      have hnot : ofUser x confd userUuid channel = false := by
        rw [ofUser, hfind]
      rw [hlength, hnot]
      exact hmade.length_eq userUuid
    | some p =>
      have hof : ∀ userUuid, ofUser x confd userUuid channel = decide (p.uuid = userUuid) := by
        intro userUuid
        rw [ofUser, hfind]
      cases hrole : channel.2.role with
      | none =>
        simp only [bind, Except.bind, pure, Except.pure]
        exact .error
      | some role =>
        simp only [bind, Except.bind, pure, Except.pure, hrole]
        refine .ok ⟨fun userUuid => ?_, fun q hq => ?_, hmade.keyed.set rfl⟩
        · rw [hlength, ← hmade.length_eq userUuid, hof, participantsOf, List.filter_append,
            List.length_append, participantsOf]
          by_cases h : p.uuid = userUuid <;> simp [h]
        · rcases List.mem_append.1 hq with hq | hq
          · exact hmade.requested_eq q hq
          · rw [List.mem_singleton.1 hq]

lemma made_computeParticipantsFromChannels :
    Yields (computeParticipantsFromChannels x confd call)
      (FromChannels.Made x confd call.rawParticipants) :=
  .foldlM ⟨fun _ => rfl, fun _ h => absurd h List.not_mem_nil, fun _ _ h => by cases h⟩
    (fun _ _ _ hmade => made_participantFromChannel hmade) _

/-! ### The users -/

lemma fetchParticipantFromUserUuid_spec
    (hconfd : ∀ uuid user, confd.user uuid = .ok user → user.uuid = uuid) (hcache : Keyed cache) :
    Yields (fetchParticipantFromUserUuid confd cache userUuid) fun (found, cache') =>
      Keyed cache' ∧ (∀ p, found = some p → p.uuid = userUuid) ∧
        (found = none → ∀ user, confd.user userUuid ≠ .ok user) := by
  unfold fetchParticipantFromUserUuid
  cases hget : cache.get? userUuid with
  | some p =>
    refine .ok ⟨hcache, fun p' hp' => ?_, fun h => by cases h⟩
    rw [← Option.some.inj hp', hcache userUuid p hget]
  | none =>
    unfold findParticipantByUuid Confd.findUser
    cases huser : confd.user userUuid with
    | ok user =>
      have huuid := hconfd userUuid user huser
      refine .ok ⟨hcache.set huuid, fun p' hp' => ?_, fun h => by cases h⟩
      rw [← Option.some.inj hp', huuid]
    | error e =>
      cases e with
      | httpError => exact .ok ⟨hcache, fun _ h => (by cases h), fun _ _ h => by cases h⟩
      | _ => exact .error

section Merge

variable {infos : List ParticipantsInfo} {ps : List CallLogParticipant} {other : String}

lemma participantsOf_mergeMentions_self :
    participantsOf (mergeMentions userUuid infos ps) userUuid =
      List.zipWith mergeMention infos (participantsOf ps userUuid) ++
        (participantsOf ps userUuid).drop infos.length := by
  fun_induction mergeMentions userUuid infos ps with
  | case1 infos => simp [participantsOf]
  | case2 ps => simp
  | case3 info infos p ps hp ih =>
    have hmerged : (mergeMention info p).userUuid = userUuid := hp
    simp only [participantsOf] at ih ⊢
    simp [hp, hmerged, ih]
  | case4 info infos p ps hp ih =>
    simp only [participantsOf] at ih ⊢
    simp [hp, ih]

lemma participantsOf_mergeMentions_of_ne (h : other ≠ userUuid) :
    participantsOf (mergeMentions userUuid infos ps) other = participantsOf ps other := by
  fun_induction mergeMentions userUuid infos ps with
  | case1 infos => rfl
  | case2 ps => rfl
  | case3 info infos p ps hp ih =>
    have hmerged : (mergeMention info p).userUuid = userUuid := hp
    simp only [participantsOf] at ih ⊢
    simp [hp, hmerged, Ne.symm h, ih]
  | case4 info infos p ps hp ih =>
    simp only [participantsOf] at ih ⊢
    by_cases hother : p.userUuid = other <;> simp [hother, ih]

end Merge

/-- What has been made of some users. -/
structure Participants.Made (confd : Confd) (call : RawCallLog)
    (connected : List CallLogParticipant) (done : List String) (acc : Participants) : Prop where
  connected_eq : ∀ userUuid, participantsOf acc.connected userUuid =
    if userUuid ∈ done ∧
        (participantsOf connected userUuid).length = (mentionsOf call userUuid).length then
      List.zipWith mergeMention (mentionsOf call userUuid) (participantsOf connected userUuid)
    else participantsOf connected userUuid
  unreached : ∀ p ∈ acc.unreached, participantsOf connected p.userUuid = [] ∧
    ∃ info, (mentionsOf call p.userUuid).getLast? = some info ∧
      p.requested = some (info.requested.getD false)
  reached : ∀ userUuid ∈ done, participantsOf connected userUuid = [] →
    (∃ user, confd.user userUuid = .ok user) → ∃ p ∈ acc.unreached, p.userUuid = userUuid
  keyed : Keyed acc.cache

section Users

variable {connected : List CallLogParticipant} {done : List String} {acc : Participants}

namespace Participants.Made

/-- A user who is new has the participants that were connected. -/
lemma participantsOf_of_notMem (hmade : acc.Made confd call connected done)
    (hnew : userUuid ∉ done) :
    participantsOf acc.connected userUuid = participantsOf connected userUuid := by
  rw [hmade.connected_eq, if_neg fun h => hnew h.1]

/-- The participants stay as they are where the mentions do not match them. -/
lemma connected_unmatched (hmade : acc.Made confd call connected done) (hnew : userUuid ∉ done)
    (hunmatched : participantsOf connected userUuid = [] ∨
      (participantsOf connected userUuid).length ≠ (mentionsOf call userUuid).length)
    (other : String) : participantsOf acc.connected other =
      if other ∈ done ++ [userUuid] ∧
          (participantsOf connected other).length = (mentionsOf call other).length then
        List.zipWith mergeMention (mentionsOf call other) (participantsOf connected other)
      else participantsOf connected other := by
  by_cases hne : other = userUuid
  · rw [hne, hmade.participantsOf_of_notMem hnew]
    rcases hunmatched with hnone | hlength
    · rw [hnone, List.zipWith_nil_right, ite_self]
    · rw [if_neg fun h => hlength h.2]
  · have hdone : other ∈ done ++ [userUuid] ↔ other ∈ done := by simp [hne]
    simp only [hmade.connected_eq, hdone]

/-- As many mentions as participants are merged one by one. -/
lemma connected_matched (hmade : acc.Made confd call connected done) (hnew : userUuid ∉ done)
    (hlength : (participantsOf connected userUuid).length = (mentionsOf call userUuid).length)
    (other : String) :
    participantsOf (mergeMentions userUuid (mentionsOf call userUuid) acc.connected) other =
      if other ∈ done ++ [userUuid] ∧
          (participantsOf connected other).length = (mentionsOf call other).length then
        List.zipWith mergeMention (mentionsOf call other) (participantsOf connected other)
      else participantsOf connected other := by
  by_cases hne : other = userUuid
  · subst hne
    have hdrop : (participantsOf connected other).drop (mentionsOf call other).length = [] := by
      rw [← hlength, List.drop_length]
    rw [participantsOf_mergeMentions_self, hmade.participantsOf_of_notMem hnew,
      if_pos ⟨by simp, hlength⟩, hdrop, List.append_nil]
  · have hdone : other ∈ done ++ [userUuid] ↔ other ∈ done := by simp [hne]
    simp only [participantsOf_mergeMentions_of_ne hne, hmade.connected_eq, hdone]

/-- The users without a channel are reached, if the new one is. -/
lemma reached_concat (hmade : acc.Made confd call connected done)
    {unreached : List CallLogParticipant} (hadded : acc.unreached ⊆ unreached)
    (hself : participantsOf connected userUuid = [] →
      (∃ user, confd.user userUuid = .ok user) → ∃ p ∈ unreached, p.userUuid = userUuid) :
    ∀ other ∈ done ++ [userUuid], participantsOf connected other = [] →
      (∃ user, confd.user other = .ok user) → ∃ p ∈ unreached, p.userUuid = other := by
  intro other hdone hempty huser
  rcases List.mem_append.1 hdone with hdone | hdone
  · obtain ⟨p, hp, hpuser⟩ := hmade.reached other hdone hempty huser
    exact ⟨p, hadded hp, hpuser⟩
  · obtain rfl := List.mem_singleton.1 hdone
    exact hself hempty huser

end Participants.Made

lemma made_participantsOfUser
    (hconfd : ∀ uuid user, confd.user uuid = .ok user → user.uuid = uuid)
    (hmade : acc.Made confd call connected done) (hnew : userUuid ∉ done) :
    Yields (participantsOfUser confd call.participantsInfo acc userUuid)
      (Participants.Made confd call connected (done ++ [userUuid])) := by
  have hself := hmade.participantsOf_of_notMem hnew
  unfold participantsOfUser
  extract_lets found infos
  split
  case isTrue hnone =>
    have hnone' : participantsOf connected userUuid = [] := hself.symm.trans hnone
    have hconnected := hmade.connected_unmatched hnew (Or.inl hnone')
    refine .bind fun (found, cache) hfetch => ?_
    obtain ⟨hkeyed, hfound, hmissing⟩ :=
      fetchParticipantFromUserUuid_spec hconfd hmade.keyed _ hfetch
    cases found with
    | none =>
      refine .ok ⟨hconnected, hmade.unreached, hmade.reached_concat (List.Subset.refl _) ?_, hkeyed⟩
      rintro - ⟨user, huser⟩
      exact absurd huser (hmissing rfl user)
    | some p =>
      have huuid := hfound p rfl
      cases hlast : infos.getLast? with
      | none => exact .error
      | some info =>
        cases hrole : info.role with
        | none =>
          simp only [hrole]
          exact .error
        | some role =>
          simp only [hrole]
          refine .ok ⟨hconnected, fun q hq => ?_,
            hmade.reached_concat (List.subset_append_left _ _) fun _ _ => ?_, hkeyed⟩
          · rcases List.mem_append.1 hq with hq | hq
            · exact hmade.unreached q hq
            · obtain rfl := List.mem_singleton.1 hq
              rw [huuid]
              exact ⟨hnone', info, hlast, rfl⟩
          · exact ⟨_, List.mem_append_right _ (List.mem_singleton_self _), huuid⟩
  case isFalse hsome =>
    have hsome' : participantsOf connected userUuid ≠ [] := fun h => hsome (hself.trans h)
    have hreached := hmade.reached_concat (List.Subset.refl _) fun hnone _ => absurd hnone hsome'
    split
    case isTrue hlength =>
      have hlength' : (participantsOf connected userUuid).length =
          (mentionsOf call userUuid).length := hself ▸ hlength
      exact .ok ⟨hmade.connected_matched hnew hlength', hmade.unreached, hreached, hmade.keyed⟩
    case isFalse hlength =>
      have hlength' : (participantsOf connected userUuid).length ≠
          (mentionsOf call userUuid).length := fun h =>
        hlength ((congrArg List.length hself).trans h)
      exact .ok ⟨hmade.connected_unmatched hnew (Or.inr hlength'), hmade.unreached, hreached,
        hmade.keyed⟩

lemma made_fetchParticipants (hconfd : ∀ uuid user, confd.user uuid = .ok user → user.uuid = uuid) :
    Yields (fetchParticipants x confd call) fun call' => ∃ (channels : FromChannels)
      (users : List String) (acc : Participants), channels.Made x confd call.rawParticipants ∧
        (∀ userUuid, userUuid ∈ users ↔ userUuid ∈ call.participantsInfo.filterMap (·.userUuid) ∨
          userUuid ∈ channels.participants.map (·.userUuid)) ∧
        acc.Made confd call channels.participants users ∧
        call'.participants = acc.connected ++ acc.unreached := by
  unfold fetchParticipants
  refine .bind fun channels hchannels => ?_
  have hmade := made_computeParticipantsFromChannels channels hchannels
  extract_lets usersFromCel usersFromChannels userUuids
  refine .bind fun acc hacc => .pure ?_
  -- each user is visited once
  have husers : userUuids.Nodup → acc.Made confd call channels.participants userUuids := by
    refine Yields.foldlM (P := fun done acc => done.Nodup →
      acc.Made confd call channels.participants done) ?_ ?_ userUuids acc hacc
    · intro _
      refine ⟨fun userUuid => ?_, fun _ h => absurd h List.not_mem_nil,
        fun _ h => absurd h List.not_mem_nil, hmade.keyed⟩
      rw [if_neg fun h => List.not_mem_nil h.1]
    · intro done acc userUuid hdone acc' hacc' hnodup
      obtain ⟨hnodup, -, hdisjoint⟩ := List.nodup_append.1 hnodup
      refine made_participantsOfUser hconfd (hdone hnodup) (fun hmem => ?_) acc' hacc'
      exact hdisjoint userUuid hmem userUuid (List.mem_singleton_self _) rfl
  refine ⟨channels, userUuids, acc, hmade, fun userUuid => ?_, husers (x.setOrder.nodup _), rfl⟩
  rw [x.setOrder.mem_visit, List.mem_append]

end Users

end ParticipantsProcessor

/-! ### The requested user -/

section Requested

variable {x : Externals} {confd : Confd} {call call' : RawCallLog} {userUuid : String}
  {info : ParticipantsInfo}

/-- The user is requested, and no other is. -/
structure Requested (userUuid : String) (participants : List CallLogParticipant) : Prop where
  exists_participant : ∃ p ∈ participants, p.userUuid = userUuid ∧ p.requested = some true
  only : ∀ p ∈ participants, p.requested = some true → p.userUuid = userUuid
  requestedUserUuid_eq : requestedUserUuid participants = some userUuid

lemma requested_iff {participants : List CallLogParticipant}
    (honly : ∀ p ∈ participants, p.requested = some true → p.userUuid = userUuid) :
    Requested userUuid participants ↔
      ∃ p ∈ participants, p.userUuid = userUuid ∧ p.requested = some true := by
  refine ⟨fun h => h.exists_participant, fun h => ⟨h, honly, ?_⟩⟩
  obtain ⟨p, hp, -, hrequested⟩ := h
  rw [requestedUserUuid]
  cases hfind : participants.find? fun p => p.requested = some true with
  | none => exact absurd (decide_eq_true hrequested) (List.find?_eq_none.1 hfind p hp)
  | some q =>
    have hrequested := of_decide_eq_true (List.find?_some hfind :)
    have hq := honly q (List.mem_of_find?_eq_some hfind) hrequested
    rw [Option.map_some, hq]

lemma exists_of_mem_zipWith_mergeMention {infos : List ParticipantsInfo}
    {ps : List CallLogParticipant} {p : CallLogParticipant}
    (h : p ∈ List.zipWith mergeMention infos ps) : ∃ info ∈ infos, ∃ q ∈ ps,
      p = mergeMention info q := by
  obtain ⟨k, hk, rfl⟩ := List.getElem_of_mem h
  rw [List.length_zipWith] at hk
  rw [List.getElem_zipWith]
  exact ⟨_, List.getElem_mem (by omega), _, List.getElem_mem (by omega), rfl⟩

lemma mem_zipWith_mergeMention {infos : List ParticipantsInfo} {ps : List CallLogParticipant}
    (hlength : ps.length = infos.length) {info : ParticipantsInfo} (h : info ∈ infos) :
    ∃ q ∈ ps, mergeMention info q ∈ List.zipWith mergeMention infos ps := by
  obtain ⟨k, hk, rfl⟩ := List.getElem_of_mem h
  have hk' : k < ps.length := hlength ▸ hk
  refine ⟨ps[k], List.getElem_mem hk', List.mem_iff_getElem.2 ⟨k, ?_, List.getElem_zipWith⟩⟩
  rw [List.length_zipWith]
  omega

/-- The one mention with a request is of the user. -/
structure RequestsOnce (call : RawCallLog) (userUuid : String) (info : ParticipantsInfo) :
    Prop where
  filter_eq : call.participantsInfo.filter (·.requested = some true) = [info]
  userUuid_eq : info.userUuid = some userUuid

namespace RequestsOnce

lemma mem (h : RequestsOnce call userUuid info) :
    info ∈ call.participantsInfo ∧ info.requested = some true := by
  have hfilter : info ∈ call.participantsInfo.filter (·.requested = some true) := by
    rw [h.filter_eq]
    exact List.mem_singleton_self info
  exact ⟨List.mem_of_mem_filter hfilter, of_decide_eq_true (List.mem_filter.1 hfilter).2⟩

lemma mem_mentionsOf (h : RequestsOnce call userUuid info) : info ∈ mentionsOf call userUuid :=
  List.mem_filter.2 ⟨h.mem.1, decide_eq_true h.userUuid_eq⟩

lemma eq_of_requested (h : RequestsOnce call userUuid info) {other : String}
    {info' : ParticipantsInfo} (hmem : info' ∈ mentionsOf call other)
    (hrequested : info'.requested.getD false = true) : info' = info ∧ other = userUuid := by
  obtain ⟨hmem, hother⟩ := List.mem_filter.1 hmem
  have hsome : info'.requested = some true := by
    cases hvalue : info'.requested with
    | none => simp [hvalue] at hrequested
    | some b => simpa [hvalue] using hrequested
  have hfilter : info' ∈ call.participantsInfo.filter (·.requested = some true) :=
    List.mem_filter.2 ⟨hmem, decide_eq_true hsome⟩
  rw [h.filter_eq] at hfilter
  obtain rfl := List.mem_singleton.1 hfilter
  exact ⟨rfl, Option.some.inj ((of_decide_eq_true hother).symm.trans h.userUuid_eq)⟩

end RequestsOnce

variable {channels : FromChannels} {users : List String} {acc : Participants}

lemma channelsOf_eq_nil_iff (hchannels : channels.Made x confd call.rawParticipants) :
    channelsOf x confd call userUuid = [] ↔ participantsOf channels.participants userUuid = [] := by
  rw [← List.length_eq_zero_iff, ← List.length_eq_zero_iff, hchannels.length_eq, channelsOf]

/-- Where a participant that is requested comes from. -/
lemma origin_of_requested (hinfo : RequestsOnce call userUuid info)
    (hchannels : channels.Made x confd call.rawParticipants)
    (hmade : acc.Made confd call channels.participants users) {p : CallLogParticipant}
    (hp : p ∈ acc.connected ++ acc.unreached) (hrequested : p.requested = some true) :
    p.userUuid = userUuid ∧
      ((channelsOf x confd call userUuid).length = (mentionsOf call userUuid).length ∨
        channelsOf x confd call userUuid = [] ∧
          (mentionsOf call userUuid).getLast? = some info) := by
  rcases List.mem_append.1 hp with hp | hp
  · have hof : p ∈ participantsOf acc.connected p.userUuid :=
      List.mem_filter.2 ⟨hp, decide_eq_true rfl⟩
    rw [hmade.connected_eq] at hof
    split at hof
    case isTrue hmatch =>
      obtain ⟨info', hinfo', q, -, hq⟩ := exists_of_mem_zipWith_mergeMention hof
      have hvalue : info'.requested.getD false = true := by
        rw [hq] at hrequested
        exact Option.some.inj hrequested
      have hsame := (hinfo.eq_of_requested hinfo' hvalue).2
      rw [hsame] at hmatch
      exact ⟨hsame, Or.inl ((hchannels.length_eq userUuid).symm.trans hmatch.2)⟩
    case isFalse =>
      have hnone := hchannels.requested_eq p (List.mem_of_mem_filter hof)
      exact absurd (hrequested.symm.trans hnone) (Option.some_ne_none true)
  · obtain ⟨hnone, info', hlast, hvalue⟩ := hmade.unreached p hp
    have hvalue' := Option.some.inj (hvalue.symm.trans hrequested)
    obtain ⟨rfl, hsame⟩ := hinfo.eq_of_requested (List.mem_of_getLast? hlast) hvalue'
    rw [hsame] at hnone hlast
    exact ⟨hsame, Or.inr ⟨(channelsOf_eq_nil_iff hchannels).2 hnone, hlast⟩⟩

/-- The requested user keeps the mention if and only if there are as many channels of the user
as mentions, or no channel and the last mention is the one that was requested. -/
theorem requestedUser_survives_iff (x : Externals) (confd : Confd) (call call' : RawCallLog)
    (userUuid : String) (info : ParticipantsInfo)
    (hconfd : ∀ uuid user, confd.user uuid = .ok user → user.uuid = uuid)
    (hinfo : RequestsOnce call userUuid info)
    (hresolves : channelsOf x confd call userUuid ≠ [] ∨ ∃ user, confd.user userUuid = .ok user)
    (h : fetchParticipants x confd call = .ok call') :
    Requested userUuid call'.participants ↔
      (channelsOf x confd call userUuid).length = (mentionsOf call userUuid).length ∨
        channelsOf x confd call userUuid = [] ∧
          (mentionsOf call userUuid).getLast? = some info := by
  obtain ⟨channels, users, acc, hchannels, husers, hmade, hparticipants⟩ :=
    made_fetchParticipants hconfd call' h
  rw [hparticipants, requested_iff fun p hp hrequested =>
    (origin_of_requested hinfo hchannels hmade hp hrequested).1]
  have hvisited : userUuid ∈ users :=
    (husers userUuid).2 (Or.inl (List.mem_filterMap.2 ⟨info, hinfo.mem.1, hinfo.userUuid_eq⟩))
  constructor
  · rintro ⟨p, hp, -, hrequested⟩
    exact (origin_of_requested hinfo hchannels hmade hp hrequested).2
  · rintro (hmatch | ⟨hnone, hlast⟩)
    · have hmatch' := (hchannels.length_eq userUuid).trans hmatch
      obtain ⟨q, hq, hmerged⟩ := mem_zipWith_mergeMention hmatch' hinfo.mem_mentionsOf
      have hof : mergeMention info q ∈ participantsOf acc.connected userUuid := by
        rw [hmade.connected_eq, if_pos ⟨hvisited, hmatch'⟩]
        exact hmerged
      refine ⟨mergeMention info q, List.mem_append_left _ (List.mem_of_mem_filter hof),
        of_decide_eq_true (List.mem_filter.1 hof).2, ?_⟩
      rw [mergeMention, hinfo.mem.2]
      rfl
    · have hknown := hresolves.resolve_left (not_not.2 hnone)
      obtain ⟨p, hp, hpuser⟩ := hmade.reached userUuid hvisited
        ((channelsOf_eq_nil_iff hchannels).1 hnone) hknown
      obtain ⟨-, info', hlast', hvalue⟩ := hmade.unreached p hp
      rw [hpuser, hlast] at hlast'
      obtain rfl := Option.some.inj hlast'
      refine ⟨p, List.mem_append_right _ hp, hpuser, ?_⟩
      rw [hvalue, hinfo.mem.2]
      rfl

/-- A confd with a user and the lines of that user. -/
def twoLines : Confd where
  user uuid :=
    if uuid = "0a5bd3a4" then .ok ⟨uuid, "54eb71f8", none, []⟩ else .error .httpError
  lines name :=
    if name = "line1" then .ok [⟨1, [], ["0a5bd3a4"]⟩]
    else if name = "line2" then .ok [⟨2, [], ["0a5bd3a4"]⟩]
    else .ok []
  contextTenants _ := .ok []
  voicemails _ := .ok []

def requestedMention : ParticipantsInfo where
  userUuid := some "0a5bd3a4"
  role := some .destination
  requested := some true

/-- A call to the user, which rings on some channels. -/
def callTo (channels : List String) : RawCallLog where
  rawParticipants := channels.map fun channel => (channel, { role := some .destination })
  participantsInfo := [requestedMention]

lemma twoLines_user (uuid : String) (user : ConfdUser) (h : twoLines.user uuid = .ok user) :
    user.uuid = uuid := by
  unfold twoLines at h
  dsimp only at h
  split at h
  · rw [← Except.ok.inj h]
  · cases h

theorem requestedUser_survives_oneChannel : ∃ call',
    fetchParticipants .ascii twoLines (callTo ["PJSIP/line1-00000001"]) = .ok call' ∧
      Requested "0a5bd3a4" call'.participants :=
  ⟨_, rfl, (requestedUser_survives_iff .ascii twoLines (callTo ["PJSIP/line1-00000001"]) _
    "0a5bd3a4" requestedMention twoLines_user ⟨by decide, rfl⟩ (Or.inl (by decide)) rfl).2
    (by decide)⟩

/-- A user with two lines that ring is not requested any more. -/
theorem requestedUser_lost_twoChannels : ∃ call',
    fetchParticipants .ascii twoLines
        (callTo ["PJSIP/line1-00000001", "PJSIP/line2-00000002"]) = .ok call' ∧
      ¬∃ p ∈ call'.participants, p.userUuid = "0a5bd3a4" ∧ p.requested = some true := by
  refine ⟨_, rfl, ?_⟩
  decide

end Requested

end CallLogd
