/-
The details of the destination of a call log: the rows of `Destination`.

An event or a voicemail gives a call the type of its destination, with all the details that
the schema of this type shows.  Nothing else writes details, and an outgoing call clears
those of a call that was forwarded.
-/
import CallLogd.Generation.Calls
import CallLogd.Interpretor.Parts
import CallLogd.Listing.Schema

namespace CallLogd

open Results CallLogsGenerator
open scoped List

/-- The details of a destination: none, or a type with each of the details that the schema
of this type shows. -/
inductive CompleteDetails (details : List (String × String)) : Prop
  | none (h : details = [])
  | typed (type : String) (fields : Dict String DetailField)
      (hschema : Dict.get? destinationDetailsSchemas type = some fields)
      (htype : ("type", type) ∈ details)
      (hkeys : details.map Prod.fst ~ "type" :: fields.map Prod.fst)

variable {x : Externals} {cel : CEL} {cels : List CEL} {call : RawCallLog}

/-! ### The caller -/

namespace CallerCELInterpretor

/-- The event that describes the destination writes details of its type, or none. -/
lemma details_interpretWazoCallLogDestination :
    Yields (interpretWazoCallLogDestination x cel call) fun call' =>
      call'.destinationDetails = call.destinationDetails ∨
        CompleteDetails call'.destinationDetails := by
  rw [interpretWazoCallLogDestination]
  refine .bind fun extra _ => ?_
  split
  · exact .pure (.inl rfl)
  · refine .bind fun d _ => ?_
    split
    · exact .pure (.inl rfl)
    · exact .bind fun id _ => .pure <| .inr <|
        .typed "conference" [("conference_id", .integer)] rfl List.mem_cons_self (.refl _)
    · exact .bind fun uuid _ => .bind fun name _ => .pure <| .inr <|
        .typed "user" [("user_uuid", .text), ("user_name", .text)] rfl List.mem_cons_self
          (.refl _)
    · exact .bind fun uuid _ => .bind fun name _ => .pure <| .inr <|
        .typed "meeting" [("meeting_uuid", .text), ("meeting_name", .text)] rfl
          List.mem_cons_self (.refl _)
    · -- the event has the id before the label, and the schema after it
      exact .bind fun id _ => .bind fun label _ => .pure <| .inr <|
        .typed "group" [("group_label", .text), ("group_id", .integer)] rfl List.mem_cons_self
          (.cons _ (.swap _ _ _))
    · exact .pure (.inl rfl)

/-- No event writes some of the details only. -/
lemma details_interpretCel (h : CompleteDetails call.destinationDetails) :
    Yields (interpretCel x cel call) fun call' => CompleteDetails call'.destinationDetails := by
  have hkeeps : ∀ {m : Except PyError RawCallLog},
      KeepsPart RawCallLog.destinationDetails call m →
        Yields m fun call' => CompleteDetails call'.destinationDetails :=
    fun hm => hm.mono fun _ heq => heq ▸ h
  rw [interpretCel]
  cases cel.eventtype with
  | appStart => exact hkeeps (.ok (part_interpretAppStart fun _ _ _ _ _ _ _ => rfl))
  | bridgeStart | bridgeEnter => exact .bind fun _ _ => .pure h
  | mixmonitorStart => exact hkeeps (part_interpretMixmonitorStart fun _ _ => rfl)
  | mixmonitorStop => exact hkeeps (part_interpretMixmonitorStop fun _ _ => rfl)
  | xivoIncall => exact hkeeps (part_interpretXivoIncall fun _ _ _ => rfl)
  | xivoOutcall =>
      refine .ok ?_
      rw [interpretXivoOutcall]
      split
      · exact h
      · exact .none rfl
  | xivoUserFwd => exact hkeeps (part_interpretXivoUserFwd fun _ _ _ _ _ _ _ => rfl)
  | wazoMeetingName => exact hkeeps (part_interpretWazoMeetingName fun _ _ _ => rfl)
  | wazoConference => exact hkeeps (part_interpretWazoConference fun _ _ => rfl)
  | wazoUserMissedCall =>
      exact hkeeps (part_interpretWazoUserMissedCall fun _ _ _ _ _ _ _ => rfl)
  | wazoUserBlockedCall =>
      exact hkeeps (part_interpretWazoUserBlockedCall fun _ _ _ _ _ _ _ => rfl)
  | wazoCallLogDestination =>
      refine details_interpretWazoCallLogDestination.mono fun call' hcall' => ?_
      exact hcall'.elim (fun heq => heq ▸ h) id
  | wazoCallLogRequestedInternal =>
      exact hkeeps (part_interpretWazoCallLogRequestedInternal fun _ _ _ => rfl)
  | _ => exact .ok h

end CallerCELInterpretor

/-! ### The callees -/

namespace CalleeCELInterpretor

lemma details_interpretBridgeEnter :
    KeepsPart RawCallLog.destinationDetails call (interpretBridgeEnter x cel call) := by
  have hbridge : ∀ c : RawCallLog,
      (setDestinationFromFirstBridge cel c).destinationDetails = c.destinationDetails :=
    fun _ => part_setDestinationFromFirstBridge
      fun _ _ _ _ => rfl
  rw [interpretBridgeEnter]
  refine .bind fun _ _ => ?_
  dsimp only
  split
  · exact .pure (hbridge _)
  · split
    · exact .pure (hbridge _)
    · split
      · refine .pure ((part_setDestinationFromCallerId (fun _ _ _ _ => rfl) _).trans ?_)
        exact hbridge _
      · exact .error

/-- An event on a callee's channel writes no details. -/
lemma details_interpretCel :
    KeepsPart RawCallLog.destinationDetails call (interpretCel x cel call) := by
  rw [interpretCel]
  cases cel.eventtype with
  | chanStart =>
      refine .ok ?_
      rw [interpretChanStart]
      dsimp only
      split
      · rfl
      · have hstart : ∀ c : RawCallLog,
            (interpretInternalChanStart cel c).destinationDetails = c.destinationDetails :=
          fun _ => part_interpretInternalChanStart fun _ _ _ _ _ _ _ _ => rfl
        exact hstart _
  | appStart => exact .ok (part_interpretVoicemailAppStart fun _ _ _ _ => rfl)
  | bridgeStart | bridgeEnter => exact details_interpretBridgeEnter
  | mixmonitorStart => exact part_interpretMixmonitorStart fun _ _ => rfl
  | mixmonitorStop => exact CallerCELInterpretor.part_interpretMixmonitorStop fun _ _ => rfl
  | wazoCallLogRequestedInternal => exact part_interpretRequestedInternal fun _ _ _ _ => rfl
  | _ => exact .ok rfl

end CalleeCELInterpretor

/-! ### The interpretors -/

/-- The loop over the events of one side. -/
lemma details_interpretEach {interpret : CEL → RawCallLog → Except PyError RawCallLog}
    (hinterpret : ∀ cel call, CompleteDetails call.destinationDetails →
      Yields (interpret cel call) fun call' => CompleteDetails call'.destinationDetails)
    (h : CompleteDetails call.destinationDetails) :
    Yields (interpretEach interpret cels call) fun call' =>
      CompleteDetails call'.destinationDetails :=
  .foldlM (P := fun _ (call' : RawCallLog) => CompleteDetails call'.destinationDetails) h
    (fun _ call' cel hcall' => hinterpret cel call' hcall') cels

lemma DispatchCELInterpretor.details_interpretCels
    (h : CompleteDetails call.destinationDetails) :
    Yields (interpretCels x cels call) fun call' => CompleteDetails call'.destinationDetails := by
  rw [interpretCels]
  refine .bind fun call' hcall' => ?_
  refine details_interpretEach (fun _ _ hcall => ?_)
    (details_interpretEach (fun _ _ => CallerCELInterpretor.details_interpretCel) h call' hcall')
  exact CalleeCELInterpretor.details_interpretCel.mono fun _ heq => heq ▸ hcall

namespace LocalOriginateCELInterpretor

lemma details_setUserFieldAndVoicemail (cels : List CEL) (ev : StartingEvents) :
    (setUserFieldAndVoicemail cels ev call).destinationDetails = call.destinationDetails := by
  have hfold : ∀ (cels : List CEL) (c : RawCallLog),
      (cels.foldl (fun c cel => interpretVoicemailAppStart cel c) c).destinationDetails =
        c.destinationDetails := by
    intro cels
    induction cels with
    | nil => exact fun _ => rfl
    | cons cel cels ih =>
        exact fun c => (ih _).trans (part_interpretVoicemailAppStart fun _ _ _ _ => rfl)
  unfold setUserFieldAndVoicemail
  dsimp only
  rw [hfold]
  split <;> rfl

lemma details_setDestination {ev : StartingEvents} {call' : RawCallLog}
    (h : setDestination x cels ev call = some call') :
    call'.destinationDetails = call.destinationDetails := by
  rw [setDestination] at h
  split at h
  · exact congrArg RawCallLog.destinationDetails (Option.some.inj h).symm
  · simp only [Option.bind_eq_bind, Option.bind_eq_some_iff, Option.some.injEq] at h
    obtain ⟨_, -, _, -, rfl⟩ := h
    rfl

lemma details_setOriginateAllLines :
    KeepsPart RawCallLog.destinationDetails call (setOriginateAllLines x cels call) := by
  rw [setOriginateAllLines]
  split
  · exact .pure rfl
  · refine .bind fun info _ => ?_
    split
    · exact .pure rfl
    · have hinfo : ∀ (c : RawCallLog) (info : ParticipantsInfo)
          (predicate : ParticipantsInfo → Bool),
          (c.insertOrUpdateParticipantsInfo info predicate).destinationDetails =
            c.destinationDetails :=
        fun _ => part_insertOrUpdateParticipantsInfo fun _ _ => rfl
      have htenant : ∀ (c : RawCallLog) (tenantUuid : String),
          (c.setTenantUuid tenantUuid).destinationDetails = c.destinationDetails :=
        fun _ => part_setTenantUuid fun _ _ => rfl
      exact .pure ((hinfo _ _ _).trans (htenant _ _))

/-- An originated call is given no details. -/
lemma details_interpretCels :
    KeepsPart RawCallLog.destinationDetails call (interpretCels x cels call) := by
  rw [interpretCels]
  split
  · exact .pure rfl
  · next ev _ =>
      dsimp only
      refine .bind fun flow _ => ?_
      split
      · exact .pure rfl
      · next recordings =>
          split
          · exact .pure (details_setUserFieldAndVoicemail cels ev)
          · next call₁ hcall₁ =>
              have hdetails := (details_setDestination hcall₁).trans
                (details_setUserFieldAndVoicemail cels ev)
              exact details_setOriginateAllLines.mono fun call₂ hcall₂ => hcall₂.trans hdetails

end LocalOriginateCELInterpretor

lemma CELInterpretor.details_interpretCels (interpretor : CELInterpretor)
    (h : CompleteDetails call.destinationDetails) :
    Yields (interpretor.interpretCels x cels call) fun call' =>
      CompleteDetails call'.destinationDetails := by
  cases interpretor with
  | localOriginate =>
      exact LocalOriginateCELInterpretor.details_interpretCels.mono fun _ heq => heq ▸ h
  | dispatch => exact DispatchCELInterpretor.details_interpretCels h

/-! ### The passes -/

namespace CallLogsGenerator

variable {gen : CallLogsGenerator} {log : CallLog} {group : Finset String × List CEL}

lemma details_removeDuplicateParticipants :
    KeepsPart RawCallLog.destinationDetails call (gen.removeDuplicateParticipants call) :=
  .bind fun _ _ => .pure rfl

lemma details_fetchParticipants {confd : Confd} : KeepsPart RawCallLog.destinationDetails call
    (ParticipantsProcessor.fetchParticipants x confd call) :=
  .bind fun _ _ => .bind fun _ _ => .pure rfl

lemma details_interpretCall {linkedids : Finset String} :
    Yields (gen.interpretCall linkedids cels) fun call =>
      CompleteDetails call.destinationDetails := by
  rw [interpretCall]
  refine .bind fun call₁ h₁ => .bind fun call₂ h₂ => .bind fun call₃ h₃ => .bind fun call₄ h₄ => ?_
  have hcall₁ := (getInterpretor cels).details_interpretCels (.none rfl) call₁ h₁
  have hcall₂ : call₂.destinationDetails = call₁.destinationDetails :=
    details_removeDuplicateParticipants call₂ h₂
  have hcall₃ : call₃.destinationDetails = call₂.destinationDetails :=
    details_fetchParticipants call₃ h₃
  have hcall₄ : call₄.destinationDetails = call₃.destinationDetails :=
    yields_ensureTenantUuidIsSet
      (fun _ => part_setTenantUuid fun _ _ => rfl) call₄ h₄
  refine (yields_fillExtensionsFromParticipants (g := RawCallLog.destinationDetails)
    (fun c p => ?_) fun c p => ?_).mono fun call₅ hcall₅ => ?_
  · rw [fillSourceExtension]
    split
    · rfl
    · split <;> rfl
  · rw [fillDestinationExtension]
    split
    · rfl
    · dsimp only
      split <;> split <;> rfl
  · rw [hcall₅, hcall₄, hcall₃, hcall₂]
    exact hcall₁

lemma details_supersedeDestination (voicemail : Option Voicemail)
    (h : CompleteDetails call.destinationDetails) :
    CompleteDetails (supersedeDestination call voicemail).destinationDetails := by
  cases voicemail with
  | none => exact h
  | some voicemail =>
      exact .typed "voicemail" [("voicemail_id", .integer), ("voicemail_name", .text)] rfl
        List.mem_cons_self (.refl _)

lemma details_logOfGroup (hlog : gen.logOfGroup group = some log) :
    CompleteDetails log.destinationDetails := by
  obtain ⟨-, call, voicemail, hcall, hfinish⟩ := finishCall_of_logOfGroup hlog
  rw [(finishCall_eq_ok hfinish).2]
  exact details_supersedeDestination voicemail (details_interpretCall call hcall)

/-- The details of every new call log are those of one type, all of them. -/
lemma details_callLogsFromCel (hlog : log ∈ gen.callLogsFromCel cels) :
    CompleteDetails log.destinationDetails := by
  obtain ⟨group, n, log', hlog', rfl⟩ := exists_logOfGroup_of_mem hlog
  have hdetails : CompleteDetails log'.destinationDetails := details_logOfGroup hlog'
  exact hdetails

end CallLogsGenerator

end CallLogd
