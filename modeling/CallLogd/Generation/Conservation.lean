/-
No participant is lost or made twice.

Each channel whose user confd finds yields one participant, and so does each mentioned
user who has no such channel.  Both loops are followed by what they have made so far.
-/
import CallLogd.Generation.ParticipantTable
import CallLogd.Generation.FirstMention
import CallLogd.Generation.Requested

namespace CallLogd

open Results

/-- Confd answers the requests for users and lines: a user is found or not. -/
structure Confd.Answers (confd : Confd) : Prop where
  user : ∀ uuid, (∃ user, confd.user uuid = .ok user) ∨ confd.user uuid = .error .httpError
  lines : ∀ name, ∃ lines, confd.lines name = .ok lines

/-- The channels and the mentions of a call have roles, and the mentions name the users as
confd does. -/
structure WellFormedParticipants (confd : Confd) (call : RawCallLog) : Prop where
  channelRole : ∀ p ∈ call.rawParticipants, p.2.role ≠ none
  mentionRole : ∀ info ∈ call.participantsInfo, info.role ≠ none
  canonical : ∀ info ∈ call.participantsInfo, ∀ uuid user, info.userUuid = some uuid →
    confd.user uuid = .ok user → user.uuid = uuid

namespace ParticipantsProcessor

variable {x : Externals} {confd : Confd} {call : RawCallLog} {userUuid : String}

/-! ### What is to be made -/

/-- The user that confd finds for a channel. -/
def resolve (x : Externals) (confd : Confd) (channel : String × RawParticipant) :
    Option (RawParticipant × ParticipantInfo) :=
  match findParticipant x confd channel.1 with
  | .ok (some p) => some (channel.2, p)
  | _ => none

/-- The channels whose users confd finds, with what it finds. -/
def resolvedChannels (x : Externals) (confd : Confd) (call : RawCallLog) :
    List (RawParticipant × ParticipantInfo) :=
  call.rawParticipants.filterMap (resolve x confd)

def HasChannel (x : Externals) (confd : Confd) (call : RawCallLog) (userUuid : String) : Prop :=
  ∃ channel ∈ resolvedChannels x confd call, channel.2.uuid = userUuid

def Mentioned (call : RawCallLog) (userUuid : String) : Prop :=
  ∃ info ∈ call.participantsInfo, info.userUuid = some userUuid

def Known (confd : Confd) (userUuid : String) : Prop := ∃ user, confd.user userUuid = .ok user

/-- The participant of a channel: what confd found, the role, and the answer if the channel
tells it. -/
structure OfChannel (channel : RawParticipant × ParticipantInfo) (p : CallLogParticipant) :
    Prop where
  userUuid_eq : p.userUuid = channel.2.uuid
  lineId_eq : p.lineId = channel.2.lineId
  tags_eq : p.tags = channel.2.tags
  role_eq : channel.1.role = some p.role
  answered_eq : ∀ b, channel.1.answered = some b → p.answered = some b

/-- The participants are those of the channels and of the mentioned users without one. -/
structure Conserves (x : Externals) (confd : Confd) (call : RawCallLog)
    (participants : List CallLogParticipant) : Prop where
  mem_iff : ∀ userUuid, (∃ p ∈ participants, p.userUuid = userUuid) ↔
    HasChannel x confd call userUuid ∨ Mentioned call userUuid ∧ Known confd userUuid
  /-- A mentioned user without a channel is there once, and did not answer. -/
  unreached : ∀ userUuid, ¬ HasChannel x confd call userUuid → Mentioned call userUuid →
    Known confd userUuid →
      ∃ p, participantsOf participants userUuid = [p] ∧ p.answered = some false
  /-- Each channel has its own participant, and no others are of users with channels. -/
  connected : ∃ ofChannels others, participants = ofChannels ++ others ∧
    List.Forall₂ OfChannel (resolvedChannels x confd call) ofChannels ∧
      ∀ p ∈ others, ¬ HasChannel x confd call p.userUuid

/-! ### The channels -/

/-- The parser of channel names rejects some, and raises nothing else. -/
def ParsesChannels (x : Externals) : Prop :=
  ∀ channame e, x.protocolInterfaceFromChannel channame = .error e → e = .invalidChannel

lemma returns_findUser (hconfd : confd.Answers) :
    Returns (confd.findUser userUuid) fun user =>
      ∀ user', user = some user' ↔ confd.user userUuid = .ok user' := by
  unfold Confd.findUser
  rcases hconfd.user userUuid with ⟨user, huser⟩ | huser
  · rw [huser]
    exact .ok fun user' => by simp
  · rw [huser]
    exact .ok fun user' => by simp

lemma returns_findParticipant (hx : ParsesChannels x) (hconfd : confd.Answers)
    (channame : String) : Returns (findParticipant x confd channame) fun _ => True := by
  unfold findParticipant
  split
  · exact .pure trivial
  · next e he hparse => exact absurd (hx channame e hparse) he
  · next protocol lineName _ =>
    split
    · exact .pure trivial
    · obtain ⟨lines, hlines⟩ := hconfd.lines lineName
      refine .bind (P := fun _ => True) ⟨lines, hlines, trivial⟩ fun lines _ => ?_
      split
      · exact .pure trivial
      · split
        · exact .pure trivial
        · refine .bind (returns_findUser hconfd) fun user _ => ?_
          split
          · exact .pure trivial
          · exact .pure trivial

/-- What the loop has made of some channels. -/
structure FromChannels.Conserved (channels : List (RawParticipant × ParticipantInfo))
    (acc : FromChannels) : Prop where
  connected : List.Forall₂ OfChannel channels acc.participants
  cached : ∀ uuid p, acc.cache.get? uuid = some p → ∃ channel ∈ channels, channel.2.uuid = uuid

lemma conserved_participantFromChannel (hx : ParsesChannels x) (hconfd : confd.Answers)
    {channels : List (RawParticipant × ParticipantInfo)} {acc : FromChannels}
    {channel : String × RawParticipant} (hrole : channel.2.role ≠ none)
    (hacc : acc.Conserved channels) : Returns (participantFromChannel x confd acc channel)
      (FromChannels.Conserved (channels ++ (resolve x confd channel).toList)) := by
  obtain ⟨found, hfind, -⟩ := returns_findParticipant hx hconfd channel.1
  obtain ⟨role, hrole⟩ := Option.ne_none_iff_exists'.1 hrole
  unfold participantFromChannel fetchParticipantFromChannel resolve
  rw [hfind]
  cases found with
  | none =>
    refine .pure ⟨?_, ?_⟩
    · simpa using hacc.connected
    · simpa using hacc.cached
  | some p =>
    simp only [bind, Except.bind, pure, Except.pure, hrole]
    refine .ok ⟨?_, fun uuid q hget => ?_⟩
    · exact List.rel_append hacc.connected (.cons ⟨rfl, rfl, rfl, hrole, fun _ h => h⟩ .nil)
    · rw [Dict.get?_set] at hget
      split at hget
      · next huuid => exact ⟨_, List.mem_append_right _ (List.mem_singleton_self _), huuid.symm⟩
      · obtain ⟨channel', hmem, huuid⟩ := hacc.cached uuid q hget
        exact ⟨channel', List.mem_append_left _ hmem, huuid⟩

lemma conserved_computeParticipantsFromChannels (hx : ParsesChannels x) (hconfd : confd.Answers)
    (hcall : WellFormedParticipants confd call) :
    Returns (computeParticipantsFromChannels x confd call)
      (FromChannels.Conserved (resolvedChannels x confd call)) := by
  refine .foldlM (P := fun done (acc : FromChannels) =>
      acc.Conserved (done.filterMap (resolve x confd)))
    ⟨.nil, fun _ _ h => by cases h⟩ _ fun done acc channel rest hsplit hacc => ?_
  have hmem : channel ∈ call.rawParticipants := hsplit ▸ by simp
  have hstep := conserved_participantFromChannel hx hconfd (hcall.channelRole channel hmem) hacc
  have hfilter : (done ++ [channel]).filterMap (resolve x confd) =
      done.filterMap (resolve x confd) ++ (resolve x confd channel).toList := by
    cases hresolve : resolve x confd channel <;> simp [hresolve]
  rwa [hfilter]

/-! ### The users -/

lemma rel_mergeMentions {channels : List (RawParticipant × ParticipantInfo)}
    {infos : List ParticipantsInfo} {ps : List CallLogParticipant}
    (h : List.Forall₂ OfChannel channels ps) :
    List.Forall₂ OfChannel channels (mergeMentions userUuid infos ps) := by
  fun_induction mergeMentions userUuid infos ps generalizing channels with
  | case1 infos => exact h
  | case2 ps => exact h
  | case3 info infos p ps hp ih =>
    cases h with
    | cons hchannel h =>
      refine .cons ⟨hchannel.1, hchannel.2, hchannel.3, hchannel.4, fun b hb => ?_⟩ (ih h)
      rw [mergeMention, hchannel.answered_eq b hb]
      rfl
  | case4 info infos p ps hp ih =>
    cases h with
    | cons hchannel h => exact .cons hchannel (ih h)

/-- A user has a channel if and only if the participants are of some channel of that user. -/
lemma hasChannel_iff {connected : List CallLogParticipant}
    (h : List.Forall₂ OfChannel (resolvedChannels x confd call) connected) :
    HasChannel x confd call userUuid ↔ ∃ p ∈ connected, p.userUuid = userUuid := by
  unfold HasChannel
  generalize resolvedChannels x confd call = channels at h
  induction h with
  | nil => simp
  | cons hchannel _ ih => simp [ih, hchannel.userUuid_eq]

/-- What the loop has made of some users. -/
structure Participants.Conserved (x : Externals) (confd : Confd) (call : RawCallLog)
    (done : List String) (acc : Participants) : Prop where
  connected : List.Forall₂ OfChannel (resolvedChannels x confd call) acc.connected
  unreached : ∀ p ∈ acc.unreached, p.answered = some false
  nodup : (acc.unreached.map (·.userUuid)).Nodup
  mem_iff : ∀ userUuid, userUuid ∈ acc.unreached.map (·.userUuid) ↔
    userUuid ∈ done ∧ ¬ HasChannel x confd call userUuid ∧ Known confd userUuid
  cached : ∀ uuid p, acc.cache.get? uuid = some p →
    HasChannel x confd call uuid ∨ uuid ∈ done

namespace Participants.Conserved

variable {done : List String} {acc acc' : Participants}

/-- A user who has a channel, or whom confd does not know, adds no participant. -/
lemma same (h : acc.Conserved x confd call done)
    (huser : HasChannel x confd call userUuid ∨ ¬ Known confd userUuid)
    (hconnected : List.Forall₂ OfChannel (resolvedChannels x confd call) acc'.connected)
    (hunreached : acc'.unreached = acc.unreached) (hcache : acc'.cache = acc.cache) :
    acc'.Conserved x confd call (done ++ [userUuid]) := by
  refine ⟨hconnected, hunreached ▸ h.unreached, hunreached ▸ h.nodup, fun other => ?_,
    fun uuid p hget => ?_⟩
  · rw [hunreached, h.mem_iff, List.mem_append, List.mem_singleton]
    constructor
    · rintro ⟨hdone, hrest⟩
      exact ⟨Or.inl hdone, hrest⟩
    · rintro ⟨hdone | rfl, hnone, hknown⟩
      · exact ⟨hdone, hnone, hknown⟩
      · rcases huser with hchannel | hunknown
        · exact absurd hchannel hnone
        · exact absurd hknown hunknown
  · rw [hcache] at hget
    exact (h.cached uuid p hget).imp_right (List.mem_append_left _)

/-- A user without a channel whom confd knows adds one participant. -/
lemma concat (h : acc.Conserved x confd call done) (hnew : userUuid ∉ done)
    (hnone : ¬ HasChannel x confd call userUuid) (hknown : Known confd userUuid)
    (info : ParticipantInfo) {p : CallLogParticipant} (hp : p.userUuid = userUuid)
    (hanswered : p.answered = some false) (hconnected : acc'.connected = acc.connected)
    (hunreached : acc'.unreached = acc.unreached ++ [p])
    (hcache : acc'.cache = acc.cache.set userUuid info) :
    acc'.Conserved x confd call (done ++ [userUuid]) := by
  have hmap : acc'.unreached.map (·.userUuid) = acc.unreached.map (·.userUuid) ++ [userUuid] := by
    rw [hunreached, List.map_append, List.map_singleton, hp]
  refine ⟨hconnected ▸ h.connected, fun q hq => ?_, ?_, fun other => ?_, fun uuid q hget => ?_⟩
  · rw [hunreached] at hq
    rcases List.mem_append.1 hq with hq | hq
    · exact h.unreached q hq
    · rw [List.mem_singleton.1 hq]
      exact hanswered
  · rw [hmap]
    refine List.nodup_append.2 ⟨h.nodup, List.nodup_singleton _, fun uuid hmem uuid' hmem' => ?_⟩
    obtain rfl := List.mem_singleton.1 hmem'
    rintro rfl
    exact hnew ((h.mem_iff uuid).1 hmem).1
  · rw [hmap, List.mem_append, h.mem_iff, List.mem_append, List.mem_singleton]
    constructor
    · rintro (⟨hdone, hrest⟩ | rfl)
      · exact ⟨Or.inl hdone, hrest⟩
      · exact ⟨Or.inr rfl, hnone, hknown⟩
    · rintro ⟨hdone | rfl, hrest⟩
      · exact Or.inl ⟨hdone, hrest⟩
      · exact Or.inr rfl
  · rw [hcache, Dict.get?_set] at hget
    split at hget
    · next huuid => exact Or.inr (List.mem_append_right _ (List.mem_singleton.2 huuid))
    · exact (h.cached uuid q hget).imp_right (List.mem_append_left _)

end Participants.Conserved

lemma returns_findParticipantByUuid (hconfd : confd.Answers) (userUuid : String) :
    Returns (findParticipantByUuid confd userUuid) fun found =>
      (found = none → ¬ Known confd userUuid) ∧
        ∀ p, found = some p → ∃ user, confd.user userUuid = .ok user ∧ p.uuid = user.uuid := by
  unfold findParticipantByUuid
  refine .bind (returns_findUser hconfd) fun user huser => ?_
  cases user with
  | none =>
    refine .pure ⟨fun _ => ?_, fun _ h => by cases h⟩
    rintro ⟨user', huser'⟩
    cases (huser user').2 huser'
  | some user =>
    refine .pure ⟨fun h => (by cases h), fun p hp => ⟨user, (huser user).1 rfl, ?_⟩⟩
    rw [← Option.some.inj hp]

lemma conserved_participantsOfUser (hconfd : confd.Answers)
    (hcall : WellFormedParticipants confd call) {done : List String} {acc : Participants}
    (hnew : userUuid ∉ done)
    (huser : Mentioned call userUuid ∨ HasChannel x confd call userUuid)
    (hacc : acc.Conserved x confd call done) :
    Returns (participantsOfUser confd call.participantsInfo acc userUuid)
      (Participants.Conserved x confd call (done ++ [userUuid])) := by
  have hempty : (acc.connected.filter fun p => p.userUuid = userUuid) = [] ↔
      ¬ HasChannel x confd call userUuid := by
    rw [hasChannel_iff hacc.connected, List.filter_eq_nil_iff]
    simp
  unfold participantsOfUser
  extract_lets found infos
  split
  case isTrue hnil =>
    have hnone := hempty.1 hnil
    obtain ⟨info, hinfo, huuid⟩ := huser.resolve_right hnone
    have huncached : acc.cache.get? userUuid = none := by
      cases hget : acc.cache.get? userUuid with
      | none => rfl
      | some p => exact absurd (hacc.cached userUuid p hget) (not_or.2 ⟨hnone, hnew⟩)
    obtain ⟨found, hfind, hunknown, hfound⟩ := returns_findParticipantByUuid hconfd userUuid
    unfold fetchParticipantFromUserUuid
    simp only [huncached, hfind, bind, Except.bind, pure, Except.pure]
    cases found with
    | none => exact .ok (hacc.same (Or.inr (hunknown rfl)) hacc.connected rfl rfl)
    | some p =>
      obtain ⟨user, hknown, hp⟩ := hfound p rfl
      have hp' : p.uuid = userUuid :=
        hp.trans (hcall.canonical info hinfo userUuid user huuid hknown)
      have hinfos : infos ≠ [] :=
        List.ne_nil_of_mem (List.mem_filter.2 ⟨hinfo, decide_eq_true huuid⟩)
      -- the last mention of the user has a role
      obtain ⟨last, hlast⟩ := Option.isSome_iff_exists.1 (List.getLast?_isSome.2 hinfos)
      have hmem := List.mem_of_mem_filter (List.mem_of_getLast? hlast)
      obtain ⟨role, hrole⟩ := Option.ne_none_iff_exists'.1 (hcall.mentionRole last hmem)
      simp only [hlast, hrole]
      exact .ok (hacc.concat hnew hnone ⟨user, hknown⟩ p hp' rfl rfl rfl rfl)
  case isFalse hcons =>
    have hchannel := not_not.1 fun hnone => hcons (hempty.2 hnone)
    split
    · exact .pure (hacc.same (Or.inl hchannel) (rel_mergeMentions hacc.connected) rfl rfl)
    · exact .pure (hacc.same (Or.inl hchannel) hacc.connected rfl rfl)

lemma conserved_fetchParticipants (hx : ParsesChannels x) (hconfd : confd.Answers)
    (hcall : WellFormedParticipants confd call) :
    Returns (fetchParticipants x confd call) fun call' => ∃ users acc,
      (∀ userUuid, userUuid ∈ users ↔
        Mentioned call userUuid ∨ HasChannel x confd call userUuid) ∧
      Participants.Conserved x confd call users acc ∧
        call'.participants = acc.connected ++ acc.unreached := by
  unfold fetchParticipants
  refine .bind (conserved_computeParticipantsFromChannels hx hconfd hcall) fun channels hchannels =>
    ?_
  extract_lets usersFromCel usersFromChannels userUuids
  have hmem : ∀ userUuid, userUuid ∈ userUuids ↔
      Mentioned call userUuid ∨ HasChannel x confd call userUuid := by
    intro userUuid
    rw [x.setOrder.mem_visit, List.mem_append, hasChannel_iff hchannels.connected]
    simp [usersFromCel, usersFromChannels, Mentioned]
  have hstart : Participants.Conserved x confd call []
      { connected := channels.participants, cache := channels.cache } :=
    ⟨hchannels.connected, by simp, by simp, by simp,
      fun uuid p hget => Or.inl (hchannels.cached uuid p hget)⟩
  refine .bind (.foldlM hstart _ fun done acc userUuid rest hsplit hacc => ?_) fun acc hacc => ?_
  · -- each user is visited once
    have hnodup : userUuids.Nodup := x.setOrder.nodup _
    rw [hsplit] at hnodup
    have hnew : userUuid ∉ done := fun hdone =>
      (List.nodup_append.1 hnodup).2.2 userUuid hdone userUuid List.mem_cons_self rfl
    refine conserved_participantsOfUser hconfd hcall hnew ((hmem userUuid).1 ?_) hacc
    rw [hsplit]
    simp
  · exact .pure ⟨userUuids, acc, hmem, hacc, rfl⟩

lemma participantsOf_eq_singleton {ps : List CallLogParticipant} {p : CallLogParticipant}
    (hnodup : (ps.map (·.userUuid)).Nodup) (hp : p ∈ ps) :
    participantsOf ps p.userUuid = [p] := by
  induction ps with
  | nil => cases hp
  | cons q ps ih =>
    rw [List.map_cons, List.nodup_cons, List.mem_map] at hnodup
    obtain ⟨hq, hnodup⟩ := hnodup
    rcases List.mem_cons.1 hp with rfl | hp
    · have hrest : participantsOf ps p.userUuid = [] :=
        List.filter_eq_nil_iff.2 fun r hr hsame => hq ⟨r, hr, of_decide_eq_true hsame⟩
      rw [participantsOf, List.filter_cons, if_pos (decide_eq_true rfl), ← participantsOf, hrest]
    · have hne : q.userUuid ≠ p.userUuid := fun hsame => hq ⟨p, hp, hsame.symm⟩
      rw [participantsOf, List.filter_cons_of_neg (by simpa using hne)]
      exact ih hnodup hp

/-- The participants are those of the channels and of the mentioned users. -/
theorem conserves_fetchParticipants (x : Externals) (confd : Confd) (call : RawCallLog)
    (hx : ParsesChannels x) (hconfd : confd.Answers)
    (hcall : WellFormedParticipants confd call) : ∃ call',
      fetchParticipants x confd call = .ok call' ∧ Conserves x confd call call'.participants := by
  obtain ⟨call', hfetch, users, acc, husers, hacc, hparticipants⟩ :=
    conserved_fetchParticipants hx hconfd hcall
  refine ⟨call', hfetch, ?_⟩
  have hunreached : ∀ userUuid, userUuid ∈ acc.unreached.map (·.userUuid) ↔
      Mentioned call userUuid ∧ Known confd userUuid ∧ ¬ HasChannel x confd call userUuid := by
    intro userUuid
    rw [hacc.mem_iff, husers]
    tauto
  rw [hparticipants]
  refine ⟨fun userUuid => ?_, fun userUuid hnone hmentioned hknown => ?_,
    acc.connected, acc.unreached, rfl, hacc.connected, fun p hp => ?_⟩
  · have hsplit : (∃ p ∈ acc.connected ++ acc.unreached, p.userUuid = userUuid) ↔
        HasChannel x confd call userUuid ∨ userUuid ∈ acc.unreached.map (·.userUuid) := by
      simp only [List.mem_append, or_and_right, exists_or, List.mem_map,
        hasChannel_iff hacc.connected]
    rw [hsplit, hunreached]
    tauto
  · have hconnected : participantsOf acc.connected userUuid = [] := by
      rw [hasChannel_iff hacc.connected] at hnone
      simpa [participantsOf] using hnone
    have hmem := (hunreached userUuid).2 ⟨hmentioned, hknown, hnone⟩
    obtain ⟨p, hp, rfl⟩ := List.mem_map.1 hmem
    refine ⟨p, ?_, hacc.unreached p hp⟩
    rw [participantsOf, List.filter_append, ← participantsOf, hconnected, List.nil_append]
    exact participantsOf_eq_singleton hacc.nodup hp
  · exact ((hunreached p.userUuid).1 (List.mem_map_of_mem hp)).2.2

/-- A confd with two lines that knows every user. -/
def everyUser : Confd := { twoLines with user := fun uuid => .ok ⟨uuid, "54eb71f8", none, []⟩ }

lemma everyUser_answers : everyUser.Answers := by
  refine ⟨fun uuid => Or.inl ⟨_, rfl⟩, fun name => ?_⟩
  unfold everyUser twoLines
  dsimp only
  split
  · exact ⟨_, rfl⟩
  · split
    · exact ⟨_, rfl⟩
    · exact ⟨_, rfl⟩

lemma parsesChannels_ascii : ParsesChannels .ascii := by
  intro channame e he
  simp only [Externals.ascii] at he
  split at he
  · cases he
  · exact (Except.error.inj he).symm

/-- A channel is answered, and another user is only mentioned. -/
def callWithMention : RawCallLog where
  rawParticipants := [("PJSIP/line1-00000001", { role := some .source, answered := some true }),
    ("PJSIP/unknown-00000002", { role := some .destination })]
  participantsInfo := [requestedMention, { userUuid := "71ea0bc2", role := some .destination }]

theorem conserves_callWithMention : ∃ call',
    fetchParticipants .ascii everyUser callWithMention = .ok call' ∧
      Conserves .ascii everyUser callWithMention call'.participants :=
  conserves_fetchParticipants .ascii everyUser callWithMention parsesChannels_ascii
    everyUser_answers ⟨by decide, by decide, fun _ _ _ _ _ h => by rw [← Except.ok.inj h]⟩

end ParticipantsProcessor

/-! ### Interpreted calls -/

section Interpreted

variable {x : Externals} {cels : List CEL} {call : RawCallLog}

/-- All the mentions of a call have roles. -/
def MentionRoles (call : RawCallLog) : Prop := ∀ info ∈ call.participantsInfo, info.role ≠ none

lemma Extends.roles {infos infos' : List ParticipantsInfo} (h : Extends infos infos')
    (hinfos : ∀ info ∈ infos, info.role ≠ none) : ∀ info ∈ infos', info.role ≠ none := by
  intro info hinfo
  obtain ⟨i, hi⟩ := List.mem_iff_getElem?.1 hinfo
  cases hget : infos[i]? with
  | none => exact (h.added i info hi hget).2
  | some p =>
    obtain ⟨p', hp', -, -, hrole⟩ := h.kept i p hget
    obtain rfl := Option.some.inj (hp'.symm.trans hi)
    rw [hrole]
    exact hinfos p (List.mem_of_getElem? hget)

lemma CallerCELInterpretor.mentionRoles_interpretCels (hcall : MentionRoles call) :
    Yields (interpretCels x cels call) MentionRoles := by
  refine .foldlM (P := fun _ call => MentionRoles call) hcall (fun _ call cel hcall => ?_) cels
  refine (mentions_interpretCel call x cel).mono fun call' hmentions => ?_
  rcases hmentions with ⟨hinfos, -⟩ | ⟨-, info, hinfos, -, hrole, -⟩ | ⟨_, hinfos, -⟩
  · exact hinfos.roles hcall
  · intro info' hinfo'
    rw [hinfos] at hinfo'
    rcases List.mem_append.1 hinfo' with hinfo' | hinfo'
    · exact hcall info' hinfo'
    · rw [List.mem_singleton.1 hinfo']
      exact hrole
  · rwa [MentionRoles, hinfos]

/-- The mentions that an interpretor adds to a new call have roles. -/
theorem CELInterpretor.mentionRoles_interpretCels (interpretor : CELInterpretor)
    (hinfos : call.participantsInfo = []) (htype : call.requestedType = none) :
    Yields (interpretor.interpretCels x cels call) MentionRoles := by
  have hcall : MentionRoles call := by simp [MentionRoles, hinfos]
  cases interpretor with
  | localOriginate =>
    intro call' hcall'
    rcases LocalOriginateCELInterpretor.interpretCels_cases call' hcall' with
      ⟨-, hsame⟩ | ⟨pre, -, hsame, hpost⟩
    · rwa [MentionRoles, (Prod.mk.inj hsame).1]
    · obtain ⟨hinfos', htype'⟩ := Prod.mk.inj hsame
      rcases LocalOriginateCELInterpretor.mentions_setOriginateAllLines (hinfos'.trans hinfos)
        (htype'.trans htype) call' hpost with hsame | ⟨-, info, -, hentry, -, hrole, -⟩
      · simp [MentionRoles, (Prod.mk.inj hsame).1]
      · simp [MentionRoles, hentry, hrole]
  | dispatch =>
    refine .bind fun call₁ hcaller => ?_
    have hroles := CallerCELInterpretor.mentionRoles_interpretCels hcall call₁ hcaller
    refine (CalleeCELInterpretor.mentions_interpretCels _).mono fun call₂ hsame => ?_
    rwa [MentionRoles, (Prod.mk.inj hsame).1]

end Interpreted

end CallLogd
