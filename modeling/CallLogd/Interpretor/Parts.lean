/-
What the handlers leave alone.

A part of a call is whatever is read from it: a field, or several of them.  A handler keeps
every part that does not depend on the fields that it writes.
-/
import CallLogd.Lib.Results
import CallLogd.Interpretor.Dispatch

namespace CallLogd

open Results

variable {β : Type*} {part : RawCallLog → β} {call : RawCallLog} {x : Externals} {cel : CEL}

/-- Every result of a handler has the part of the call. -/
abbrev KeepsPart (part : RawCallLog → β) (call : RawCallLog) (m : Except PyError RawCallLog) :
    Prop :=
  Yields m fun call' => part call' = part call

lemma part_setTenantUuid
    (hpart : ∀ (c : RawCallLog) tenantUuid, part { c with tenantUuid := tenantUuid } = part c)
    (tenantUuid : String) : part (call.setTenantUuid tenantUuid) = part call := by
  rw [RawCallLog.setTenantUuid]
  split
  · exact hpart call _
  · rfl

lemma part_insertOrUpdateParticipantsInfo
    (hpart : ∀ (c : RawCallLog) infos, part { c with participantsInfo := infos } = part c)
    (info : ParticipantsInfo) (predicate : ParticipantsInfo → Bool) :
    part (call.insertOrUpdateParticipantsInfo info predicate) = part call := by
  rw [RawCallLog.insertOrUpdateParticipantsInfo]
  split <;> exact hpart call _

lemma part_interpretVoicemailAppStart
    (hpart : ∀ (c : RawCallLog) reached number context, part { c with
      reachedVoicemail := reached
      voicemailNumber := number
      voicemailContext := context } = part c) :
    part (interpretVoicemailAppStart cel call) = part call := by
  rw [interpretVoicemailAppStart]
  split
  · exact hpart call _ _ _
  · rfl

/-! ### The caller -/

namespace CallerCELInterpretor

lemma part_interpretAppStart
    (hpart : ∀ (c : RawCallLog) userField reached number context sourceName sourceExten,
      part { c with
        userField := userField
        reachedVoicemail := reached
        voicemailNumber := number
        voicemailContext := context
        sourceName := sourceName
        sourceExten := sourceExten } = part c) :
    part (interpretAppStart cel call) = part call := by
  have hvoicemail : part (interpretVoicemailAppStart cel
      { call with userField := some cel.userfield }) = part call :=
    (part_interpretVoicemailAppStart fun c reached number context =>
      hpart c c.userField reached number context c.sourceName c.sourceExten).trans
        (hpart call _ call.reachedVoicemail call.voicemailNumber call.voicemailContext
          call.sourceName call.sourceExten)
  unfold interpretAppStart
  dsimp only
  split
  · exact hvoicemail
  · exact (hpart _ _ _ _ _ _ _).trans hvoicemail

lemma part_interpretMixmonitorStart
    (hpart : ∀ (c : RawCallLog) recordings, part { c with recordings := recordings } = part c) :
    KeepsPart part call (interpretMixmonitorStart x cel call) := by
  rw [interpretMixmonitorStart]
  refine .bind fun start _ => ?_
  split
  · exact .pure rfl
  · exact .bind fun _ _ => .pure (hpart call _)

lemma part_interpretMixmonitorStop
    (hpart : ∀ (c : RawCallLog) recordings, part { c with recordings := recordings } = part c) :
    KeepsPart part call (interpretMixmonitorStop x cel call) := by
  rw [interpretMixmonitorStop]
  refine .bind fun stop _ => ?_
  split
  · exact .pure rfl
  · exact .pure (hpart call _)

lemma part_interpretXivoIncall
    (hpart : ∀ (c : RawCallLog) direction tenantUuid,
      part { c with direction := direction, tenantUuid := tenantUuid } = part c) :
    KeepsPart part call (interpretXivoIncall x cel call) := by
  have hinbound : part { call with direction := .inbound } = part call :=
    hpart call .inbound call.tenantUuid
  unfold interpretXivoIncall
  refine .bind fun extra _ => ?_
  split
  · exact .pure hinbound
  · refine .bind fun _ _ => .pure ?_
    exact (part_setTenantUuid (fun c => hpart c c.direction) _).trans hinbound

lemma part_interpretXivoOutcall
    (hpart : ∀ (c : RawCallLog) direction details exten name, part { c with
      direction := direction
      destinationDetails := details
      destinationExten := exten
      destinationName := name } = part c) :
    part (interpretXivoOutcall cel call) = part call := by
  rw [interpretXivoOutcall]
  split
  · exact hpart call .outbound call.destinationDetails call.destinationExten call.destinationName
  · exact hpart call call.direction _ _ _

lemma part_interpretXivoUserFwd
    (hpart : ∀ (c : RawCallLog) wasForwarded destinationExten exten context name pending,
      part { c with
        wasForwarded := wasForwarded
        destinationExten := destinationExten
        requestedInternalExten := exten
        requestedInternalContext := context
        requestedName := name
        interpretCallerXivoUserFwd := pending } = part c) :
    KeepsPart part call (interpretXivoUserFwd cel call) := by
  rw [interpretXivoUserFwd]
  split
  · exact .error
  · dsimp only
    split
    · exact .ok (hpart call true call.destinationExten call.requestedInternalExten
        call.requestedInternalContext call.requestedName false)
    · split
      · exact .ok (hpart call _ _ _ _ _ _)
      · exact .ok (hpart call true _ call.requestedInternalExten call.requestedInternalContext
          call.requestedName call.interpretCallerXivoUserFwd)

lemma part_interpretWazoConference
    (hpart : ∀ (c : RawCallLog) name, part { c with destinationName := name } = part c) :
    KeepsPart part call (interpretWazoConference x cel call) := by
  unfold interpretWazoConference
  refine .bind fun extra _ => ?_
  split
  · exact .pure rfl
  · refine .bind fun _ _ => .bind fun _ _ => ?_
    split
    · exact .pure (hpart call _)
    · exact .error

/-- The event of a meeting names the destination, and hides the extension of a meeting. -/
lemma interpretWazoMeetingName_yields : Yields (interpretWazoMeetingName x cel call) fun call' =>
    call' = call ∨ ∃ name, call' = { call with destinationName := name } ∨
      ∃ exten : String, (Regex.matchStart meetingExtensionRegex exten.toList).isSome ∧
        call' = { call with
          destinationName := name
          extensionFilter := call.extensionFilter.addExten exten } := by
  rw [interpretWazoMeetingName]
  refine .bind fun extra _ => ?_
  split
  · exact .pure (.inl rfl)
  · refine .bind fun name _ => ?_
    dsimp only
    split
    · exact .error
    · next exten _ =>
      split
      · next hexten => exact .pure (.inr ⟨name, .inr ⟨exten, hexten, rfl⟩⟩)
      · exact .pure (.inr ⟨name, .inl rfl⟩)

lemma part_interpretWazoMeetingName
    (hpart : ∀ (c : RawCallLog) name extensionFilter,
      part { c with destinationName := name, extensionFilter := extensionFilter } = part c) :
    KeepsPart part call (interpretWazoMeetingName x cel call) := by
  refine interpretWazoMeetingName_yields.mono ?_
  rintro _ (rfl | ⟨name, rfl | ⟨exten, -, rfl⟩⟩)
  · rfl
  · exact hpart call name call.extensionFilter
  · exact hpart call name _

lemma part_interpretWazoUserMissedCall
    (hpart : ∀ (c : RawCallLog) infos tenantUuid destinationName sourceName sourceExten identity,
      part { c with
        participantsInfo := infos
        tenantUuid := tenantUuid
        destinationName := destinationName
        sourceName := sourceName
        sourceExten := sourceExten
        sourceLineIdentity := identity } = part c) :
    KeepsPart part call (interpretWazoUserMissedCall x cel call) := by
  have hmention : ∀ (p : Prop) [Decidable p] (c : RawCallLog) (info : ParticipantsInfo)
      (predicate : ParticipantsInfo → Bool),
      part (if p then c.insertOrUpdateParticipantsInfo info predicate else c) = part c := by
    intro p _ c info predicate
    split
    · exact part_insertOrUpdateParticipantsInfo (fun c infos => hpart c infos c.tenantUuid
        c.destinationName c.sourceName c.sourceExten c.sourceLineIdentity) _ _
    · rfl
  have htenant : ∀ (c : RawCallLog) (tenantUuid : String),
      part (c.setTenantUuid tenantUuid) = part c := fun c =>
    part_setTenantUuid fun c tenantUuid => hpart c c.participantsInfo tenantUuid
      c.destinationName c.sourceName c.sourceExten c.sourceLineIdentity
  rw [interpretWazoUserMissedCall]
  refine .bind fun extra _ => ?_
  split
  · exact .pure rfl
  · refine .bind fun v _ => .pure ?_
    refine (hpart _ _ _ _ _ _ _).trans ((htenant _ _).trans ?_)
    exact (hmention _ _ _ _).trans (hmention _ _ _ _)

lemma part_interpretWazoUserBlockedCall
    (hpart : ∀ (c : RawCallLog) infos tenantUuid sourceName sourceExten identity blocked,
      part { c with
        participantsInfo := infos
        tenantUuid := tenantUuid
        sourceName := sourceName
        sourceExten := sourceExten
        sourceLineIdentity := identity
        blocked := blocked } = part c) :
    KeepsPart part call (interpretWazoUserBlockedCall x cel call) := by
  rw [interpretWazoUserBlockedCall]
  refine .bind fun extra _ => ?_
  split
  · exact .pure rfl
  · refine .bind fun v _ => .pure ?_
    refine (hpart _ _ _ _ _ _ _).trans ((part_setTenantUuid (fun c tenantUuid => hpart c
      c.participantsInfo tenantUuid c.sourceName c.sourceExten c.sourceLineIdentity
        c.blocked) _).trans ?_)
    exact part_insertOrUpdateParticipantsInfo (fun c infos => hpart c infos c.tenantUuid
      c.sourceName c.sourceExten c.sourceLineIdentity c.blocked) _ _

lemma part_interpretWazoCallLogDestination
    (hpart : ∀ (c : RawCallLog) infos destinationName requestedType details authoritative,
      part { c with
        participantsInfo := infos
        destinationName := destinationName
        requestedType := requestedType
        destinationDetails := details
        authoritativeDestinationInfo := authoritative } = part c) :
    KeepsPart part call (interpretWazoCallLogDestination x cel call) := by
  rw [interpretWazoCallLogDestination]
  refine .bind fun extra _ => ?_
  split
  · exact .pure rfl
  · refine .bind fun d _ => ?_
    split
    · exact .pure rfl
    · exact .bind fun _ _ => .pure (hpart call call.participantsInfo call.destinationName _ _ _)
    · exact .bind fun _ _ => .bind fun _ _ => .pure (hpart call _ _ _ _ _)
    · exact .bind fun _ _ => .bind fun _ _ =>
        .pure (hpart call call.participantsInfo call.destinationName _ _ _)
    · exact .bind fun _ _ => .bind fun _ _ => .pure (hpart call call.participantsInfo _ _ _ _)
    · exact .pure rfl

lemma part_interpretWazoCallLogRequestedInternal
    (hpart : ∀ (c : RawCallLog) exten context, part { c with
      requestedInternalExten := exten
      requestedInternalContext := context } = part c) :
    KeepsPart part call (interpretWazoCallLogRequestedInternal x cel call) := by
  unfold interpretWazoCallLogRequestedInternal
  refine .bind fun extra _ => ?_
  split
  · exact .pure rfl
  · exact .bind fun _ _ => .pure (hpart call _ _)

end CallerCELInterpretor

/-! ### The callees -/

namespace CalleeCELInterpretor

lemma part_setDestination
    (hpart : ∀ (c : RawCallLog) exten name,
      part { c with destinationExten := exten, destinationName := name } = part c) :
    part (setDestination cel call) = part call := by
  rw [setDestination]
  split
  · rfl
  · exact hpart call _ _

lemma part_interpretInternalChanStart
    (hpart : ∀ (c : RawCallLog) peers pending exten name internalExten internalContext requested,
      part { c with
        pendingWaitForMobilePeers := peers
        interpretCalleeBridgeEnter := pending
        destinationExten := exten
        destinationName := name
        destinationInternalExten := internalExten
        destinationInternalContext := internalContext
        requestedName := requested } = part c) :
    part (interpretInternalChanStart cel call) = part call := by
  have hset : ∀ c : RawCallLog, part (setDestination cel c) = part c := fun c =>
    part_setDestination fun c exten name => hpart c c.pendingWaitForMobilePeers
      c.interpretCalleeBridgeEnter exten name c.destinationInternalExten
      c.destinationInternalContext c.requestedName
  rw [interpretInternalChanStart]
  split
  · exact hpart call _ call.interpretCalleeBridgeEnter call.destinationExten call.destinationName
      call.destinationInternalExten call.destinationInternalContext call.requestedName
  · split
    · next peer _ =>
      refine (hpart (setDestination cel _) _ _ _ _ _ _ _).trans ((hset _).trans ?_)
      exact hpart call _ false call.destinationExten call.destinationName
        call.destinationInternalExten call.destinationInternalContext call.requestedName
    · exact (hpart (setDestination cel call) _ _ _ _ _ _ _).trans (hset call)

lemma part_setDestinationFromCallerId
    (hpart : ∀ (c : RawCallLog) exten name internalExten, part { c with
      destinationExten := exten
      destinationName := name
      destinationInternalExten := internalExten } = part c)
    (callerId : String × String) :
    part (setDestinationFromCallerId callerId call) = part call := by
  unfold setDestinationFromCallerId
  dsimp only
  split
  · split
    · exact hpart call _ _ _
    · exact hpart call _ call.destinationName _
  · split
    · exact hpart call call.destinationExten _ call.destinationInternalExten
    · rfl

lemma part_setDestinationFromFirstBridge
    (hpart : ∀ (c : RawCallLog) exten name pending, part { c with
      destinationExten := exten
      destinationName := name
      interpretCalleeBridgeEnter := pending } = part c) :
    part (setDestinationFromFirstBridge cel call) = part call := by
  rw [setDestinationFromFirstBridge]
  split
  · exact hpart call _ _ _
  · rfl

lemma part_interpretMixmonitorStart
    (hpart : ∀ (c : RawCallLog) recordings, part { c with recordings := recordings } = part c) :
    KeepsPart part call (interpretMixmonitorStart x cel call) := by
  rw [interpretMixmonitorStart]
  refine .bind fun start _ => ?_
  split
  · exact .pure rfl
  · exact .bind fun _ _ => .pure (hpart call _)

lemma part_interpretRequestedInternal
    (hpart : ∀ (c : RawCallLog) exten context name, part { c with
      requestedInternalExten := exten
      requestedInternalContext := context
      requestedName := name } = part c) :
    KeepsPart part call (interpretRequestedInternal x cel call) := by
  rw [interpretRequestedInternal]
  refine .bind fun extra _ => ?_
  split
  · exact .pure rfl
  · exact .bind fun _ _ => .pure (hpart call _ _ _)

end CalleeCELInterpretor

end CallLogd
