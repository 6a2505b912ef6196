/-
The users that the events of a call mention.

The entries of `participants_info` keep their places: an event updates one, or adds one
at the end.  Only an event that finds no requested type adds an entry with a request, and
it sets the requested type.
-/
import CallLogd.Interpretor.Parts

namespace CallLogd

open Results

variable {call call' : RawCallLog} {x : Externals} {cel : CEL}
  {infos infos' infos'' : List ParticipantsInfo}

/-! ### Lists of mentions -/

/-- The mentions are those of before with other names and answers, and some without a
request. -/
structure Extends (infos infos' : List ParticipantsInfo) : Prop where
  kept : ∀ (i : ℕ) (p : ParticipantsInfo), infos[i]? = some p → ∃ p', infos'[i]? = some p' ∧
    p'.requested = p.requested ∧ p'.userUuid = p.userUuid ∧ p'.role = p.role
  added : ∀ (i : ℕ) (p' : ParticipantsInfo), infos'[i]? = some p' → infos[i]? = none →
    p'.requested ≠ some true ∧ p'.role ≠ none

namespace Extends

lemma refl (infos : List ParticipantsInfo) : Extends infos infos := by
  refine ⟨fun i p hp => ⟨p, hp, rfl, rfl, rfl⟩, fun i p hp hnone => ?_⟩
  cases hp.symm.trans hnone

lemma trans (h : Extends infos infos') (h' : Extends infos' infos'') : Extends infos infos'' := by
  refine ⟨fun i p hp => ?_, fun i p'' hp'' hnone => ?_⟩
  · obtain ⟨p', hp', hrequested, huuid, hrole⟩ := h.kept i p hp
    obtain ⟨p'', hp'', hrequested', huuid', hrole'⟩ := h'.kept i p' hp'
    exact ⟨p'', hp'', hrequested'.trans hrequested, huuid'.trans huuid, hrole'.trans hrole⟩
  · cases hp' : infos'[i]? with
    | none => exact h'.added i p'' hp'' hp'
    | some p' =>
      obtain ⟨q, hq, hrequested, -, hrole⟩ := h'.kept i p' hp'
      obtain rfl := Option.some.inj (hq.symm.trans hp'')
      rw [hrequested, hrole]
      exact h.added i p' hp' hnone

/-- An entry of the longer list is one of before, or it has no request. -/
lemma exists_of_requested (h : Extends infos infos') {i : ℕ} {p' : ParticipantsInfo}
    (hp' : infos'[i]? = some p') (hrequested : p'.requested = some true) :
    ∃ p, infos[i]? = some p ∧ p.requested = some true ∧ p'.userUuid = p.userUuid ∧
      p'.role = p.role := by
  cases hp : infos[i]? with
  | none => exact absurd hrequested (h.added i p' hp' hp).1
  | some p =>
    obtain ⟨q, hq, hsame, huuid, hrole⟩ := h.kept i p hp
    obtain rfl := Option.some.inj (hq.symm.trans hp')
    exact ⟨p, rfl, hsame.symm.trans hrequested, huuid, hrole⟩

/-- An entry without a request is added. -/
lemma concat {info : ParticipantsInfo} (hrequested : info.requested ≠ some true)
    (hrole : info.role ≠ none) : Extends infos (infos ++ [info]) := by
  refine ⟨fun j p hp => ⟨p, ?_, rfl, rfl, rfl⟩, fun j p' hp' hnone => ?_⟩
  · rw [List.getElem?_append_left (List.getElem?_eq_some_iff.1 hp).1]
    exact hp
  · rw [List.getElem?_append_right (List.getElem?_eq_none_iff.1 hnone)] at hp'
    obtain rfl := List.mem_singleton.1 (List.mem_of_getElem? hp')
    exact ⟨hrequested, hrole⟩

end Extends

/-- A mention without a request updates the entry of its user on its side of the call, or
is added. -/
lemma extends_insertOrUpdate {info : ParticipantsInfo} {userUuid : String} {role : Role}
    (hrequested : info.requested = none) (huuid : info.userUuid = some userUuid)
    (hrole : info.role = some role) :
    Extends call.participantsInfo (call.insertOrUpdateParticipantsInfo info
      (CallerCELInterpretor.isUserWithRole userUuid role)).participantsInfo := by
  rw [RawCallLog.insertOrUpdateParticipantsInfo]
  split
  · next i hfind =>
    obtain ⟨hlt, hfound, -⟩ := List.findIdx?_eq_some_iff_getElem.1 hfind
    simp only [CallerCELInterpretor.isUserWithRole, decide_eq_true_eq] at hfound
    have hget : ∀ j, (call.participantsInfo.modify i (·.update info))[j]? =
        (call.participantsInfo[j]?).map fun p => if i = j then p.update info else p := by
      intro j
      rw [List.getElem?_modify]
      cases call.participantsInfo[j]? <;> rfl
    refine ⟨fun j p hp => ?_, fun j p' hp' hnone => ?_⟩
    · refine ⟨if i = j then p.update info else p, by rw [hget, hp]; rfl, ?_⟩
      split
      · next hij =>
        subst hij
        rw [List.getElem?_eq_getElem hlt, Option.some.injEq] at hp
        rw [hp] at hfound
        simp only [ParticipantsInfo.update, hrequested, huuid, hrole, hfound, Option.none_or,
          Option.some_or, and_self]
      · exact ⟨rfl, rfl, rfl⟩
    · rw [hget, hnone] at hp'
      cases hp'
  · refine .concat ?_ ?_
    · simp [hrequested]
    · simp [hrole]

/-! ### The caller -/

/-- What an event of the caller's channel does to the mentions and the requested type. -/
inductive CallerMentions (cel : CEL) (call call' : RawCallLog) : Prop
  /-- Some mentions are added or updated, without a request. -/
  | merged (hinfos : Extends call.participantsInfo call'.participantsInfo)
      (htype : call'.requestedType = call.requestedType)
  /-- A destination is mentioned; it is requested if it is the first one. -/
  | user (hcel : cel.eventtype = .wazoCallLogDestination) (info : ParticipantsInfo)
      (hinfos : call'.participantsInfo = call.participantsInfo ++ [info])
      (hrequested : info.requested = some (!truthy call.requestedType))
      (hrole : info.role ≠ none)
      (htype : call'.requestedType =
        if truthy call.requestedType then call.requestedType else some "user")
  /-- A destination that is no user is found. -/
  | destination (type : String) (hinfos : call'.participantsInfo = call.participantsInfo)
      (htype : call'.requestedType =
        if truthy call.requestedType then call.requestedType else some type)

/-- The mentions of a call, with its requested type. -/
abbrev RawCallLog.mentions (call : RawCallLog) : List ParticipantsInfo × Option String :=
  (call.participantsInfo, call.requestedType)

/-- Every result of a handler has the mentions of the call. -/
abbrev KeepsMentions (call : RawCallLog) (m : Except PyError RawCallLog) : Prop :=
  Yields m fun call' => call'.mentions = call.mentions

lemma CallerMentions.same (h : call'.mentions = call.mentions) :
    CallerMentions cel call call' := by
  obtain ⟨hinfos, htype⟩ := Prod.mk.inj h
  exact .merged (hinfos ▸ .refl _) htype

variable (call) in
lemma mentions_setTenantUuid (tenantUuid : String) :
    (call.setTenantUuid tenantUuid).mentions = call.mentions :=
  part_setTenantUuid (fun _ _ => rfl) tenantUuid

lemma requestedType_insertOrUpdate (info : ParticipantsInfo)
    (predicate : ParticipantsInfo → Bool) :
    (call.insertOrUpdateParticipantsInfo info predicate).requestedType = call.requestedType :=
  part_insertOrUpdateParticipantsInfo (fun _ _ => rfl) info predicate

lemma mentions_interpretVoicemailAppStart :
    (interpretVoicemailAppStart cel call).mentions = call.mentions :=
  part_interpretVoicemailAppStart fun _ _ _ _ => rfl

namespace CallerCELInterpretor

lemma mentions_interpretAppStart : (interpretAppStart cel call).mentions = call.mentions :=
  part_interpretAppStart fun _ _ _ _ _ _ _ => rfl

lemma mentions_interpretXivoIncall : KeepsMentions call (interpretXivoIncall x cel call) :=
  part_interpretXivoIncall fun _ _ _ => rfl

lemma mentions_interpretXivoUserFwd : KeepsMentions call (interpretXivoUserFwd cel call) :=
  part_interpretXivoUserFwd fun _ _ _ _ _ _ _ => rfl

lemma mentions_interpretWazoConference :
    KeepsMentions call (interpretWazoConference x cel call) :=
  part_interpretWazoConference fun _ _ => rfl

lemma mentions_interpretWazoMeetingName :
    KeepsMentions call (interpretWazoMeetingName x cel call) :=
  part_interpretWazoMeetingName fun _ _ _ => rfl

lemma mentions_interpretMixmonitorStart :
    KeepsMentions call (interpretMixmonitorStart x cel call) :=
  part_interpretMixmonitorStart fun _ _ => rfl

lemma mentions_interpretMixmonitorStop :
    KeepsMentions call (interpretMixmonitorStop x cel call) :=
  part_interpretMixmonitorStop fun _ _ => rfl

lemma mentions_interpretWazoUserMissedCall :
    Yields (interpretWazoUserMissedCall x cel call) (CallerMentions cel call) := by
  rw [interpretWazoUserMissedCall]
  refine .bind fun extra _ => ?_
  split
  · exact .pure (.same rfl)
  · refine .bind fun v _ => .pure ?_
    -- the source and the destination of the call are mentioned in the same way
    have hmention : ∀ (c : RawCallLog) (userUuid name : String) (role : Role),
        let c' := if userUuid ≠ "" then c.insertOrUpdateParticipantsInfo
            { userUuid := userUuid, answered := some false, name := name, role := some role }
            (isUserWithRole userUuid role) else c
        Extends c.participantsInfo c'.participantsInfo ∧ c'.requestedType = c.requestedType := by
      intro c userUuid name role
      dsimp only
      split
      · exact ⟨extends_insertOrUpdate rfl rfl rfl, requestedType_insertOrUpdate _ _⟩
      · exact ⟨.refl _, rfl⟩
    obtain ⟨hsource, htype⟩ := hmention call v.sourceUserUuid v.sourceName .source
    obtain ⟨hdestination, htype'⟩ :=
      hmention _ v.destinationUserUuid v.destinationName .destination
    obtain ⟨hinfos, htenant⟩ := Prod.mk.inj (mentions_setTenantUuid _ v.wazoTenantUuid)
    refine .merged ?_ (htenant.trans (htype'.trans htype))
    exact hinfos ▸ hsource.trans hdestination

lemma mentions_interpretWazoUserBlockedCall :
    Yields (interpretWazoUserBlockedCall x cel call) (CallerMentions cel call) := by
  rw [interpretWazoUserBlockedCall]
  refine .bind fun extra _ => ?_
  split
  · exact .pure (.same rfl)
  · refine .bind fun v _ => .pure ?_
    obtain ⟨hinfos, htenant⟩ := Prod.mk.inj (mentions_setTenantUuid _ v.wazoTenantUuid)
    refine .merged ?_ (htenant.trans (requestedType_insertOrUpdate _ _))
    exact hinfos ▸ extends_insertOrUpdate rfl rfl rfl

lemma mentions_interpretWazoCallLogDestination (h : cel.eventtype = .wazoCallLogDestination) :
    Yields (interpretWazoCallLogDestination x cel call) (CallerMentions cel call) := by
  rw [interpretWazoCallLogDestination]
  refine .bind fun extra _ => ?_
  split
  · exact .pure (.same rfl)
  · refine .bind fun extraDict _ => ?_
    split
    · exact .pure (.same rfl)
    · exact .bind fun _ _ => .pure (.destination "conference" rfl rfl)
    · refine .bind fun uuid _ => .bind fun name _ => .pure ?_
      exact .user h _ rfl rfl (Option.some_ne_none _) rfl
    · exact .bind fun _ _ => .bind fun _ _ => .pure (.destination "meeting" rfl rfl)
    · exact .bind fun _ _ => .bind fun _ _ => .pure (.destination "group" rfl rfl)
    · exact .pure (.same rfl)

lemma mentions_interpretWazoCallLogRequestedInternal :
    KeepsMentions call (interpretWazoCallLogRequestedInternal x cel call) :=
  part_interpretWazoCallLogRequestedInternal fun _ _ _ => rfl

variable (x cel call) in
/-- The mentions after an event of the caller's channel. -/
lemma mentions_interpretCel : Yields (interpretCel x cel call) (CallerMentions cel call) := by
  have hsame : ∀ {m : Except PyError RawCallLog}, KeepsMentions call m →
      Yields m (CallerMentions cel call) := fun h => h.mono fun _ => .same
  rw [interpretCel]
  cases htype : cel.eventtype with
  | appStart => exact hsame (.ok mentions_interpretAppStart)
  | bridgeStart => exact hsame (.bind fun _ _ => .pure rfl)
  | bridgeEnter => exact hsame (.bind fun _ _ => .pure rfl)
  | mixmonitorStart => exact hsame mentions_interpretMixmonitorStart
  | mixmonitorStop => exact hsame mentions_interpretMixmonitorStop
  | xivoIncall => exact hsame mentions_interpretXivoIncall
  | xivoOutcall => exact hsame (.ok (part_interpretXivoOutcall fun _ _ _ _ _ => rfl))
  | xivoUserFwd => exact hsame mentions_interpretXivoUserFwd
  | wazoMeetingName => exact hsame mentions_interpretWazoMeetingName
  | wazoConference => exact hsame mentions_interpretWazoConference
  | wazoUserMissedCall => exact mentions_interpretWazoUserMissedCall
  | wazoUserBlockedCall => exact mentions_interpretWazoUserBlockedCall
  | wazoCallLogDestination => exact mentions_interpretWazoCallLogDestination htype
  | wazoCallLogRequestedInternal => exact hsame mentions_interpretWazoCallLogRequestedInternal
  | _ => exact hsame (.ok rfl)

end CallerCELInterpretor

/-! ### The callees -/

namespace CalleeCELInterpretor

lemma mentions_interpretInternalChanStart :
    (interpretInternalChanStart cel call).mentions = call.mentions :=
  part_interpretInternalChanStart fun _ _ _ _ _ _ _ _ => rfl

lemma mentions_interpretBridgeEnter : KeepsMentions call (interpretBridgeEnter x cel call) := by
  have hfirst : ∀ c : RawCallLog, (setDestinationFromFirstBridge cel c).mentions = c.mentions :=
    fun _ => part_setDestinationFromFirstBridge fun _ _ _ _ => rfl
  have hcallerId : ∀ (callerId : String × String) (c : RawCallLog),
      (setDestinationFromCallerId callerId c).mentions = c.mentions :=
    fun callerId _ => part_setDestinationFromCallerId (fun _ _ _ _ => rfl) callerId
  rw [interpretBridgeEnter]
  refine .bind fun _ _ => ?_
  dsimp only
  split
  · exact .pure (hfirst _)
  · split
    · exact .pure (hfirst _)
    · split
      · exact .pure ((hcallerId _ _).trans (hfirst _))
      · exact .error

lemma mentions_interpretRequestedInternal :
    KeepsMentions call (interpretRequestedInternal x cel call) :=
  part_interpretRequestedInternal fun _ _ _ _ => rfl

variable (x cel call) in
/-- The callees' events mention no user. -/
lemma mentions_interpretCel : KeepsMentions call (interpretCel x cel call) := by
  rw [interpretCel]
  cases cel.eventtype with
  | chanStart =>
    refine .ok ?_
    rw [interpretChanStart]
    dsimp only
    split
    · rfl
    · exact mentions_interpretInternalChanStart
  | appStart => exact .ok mentions_interpretVoicemailAppStart
  | bridgeEnter => exact mentions_interpretBridgeEnter
  | bridgeStart => exact mentions_interpretBridgeEnter
  | mixmonitorStart => exact part_interpretMixmonitorStart fun _ _ => rfl
  | mixmonitorStop => exact CallerCELInterpretor.mentions_interpretMixmonitorStop
  | wazoCallLogRequestedInternal => exact mentions_interpretRequestedInternal
  | _ => exact .ok rfl

lemma mentions_interpretCels (cels : List CEL) : KeepsMentions call (interpretCels x cels call) :=
  .foldlM (P := fun _ (call' : RawCallLog) => call'.mentions = call.mentions) rfl
    (fun _ c cel hc => (mentions_interpretCel c x cel).mono fun _ h => h.trans hc) cels

end CalleeCELInterpretor

end CallLogd
