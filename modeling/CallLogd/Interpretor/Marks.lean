/-
What the events of the channels write.

An event of the caller's channel writes a date, the hidden extensions or the entry of its
channel; an event of a callee's channel writes the tables of the channels only.
-/
import CallLogd.Interpretor.Frame

namespace CallLogd

open Results

variable {call : RawCallLog} {x : Externals} {cel : CEL}

/-! ### The caller -/

/-- What an event of the caller's channel can write. -/
inductive CallerMarks (cel : CEL) (marks : CallMarks) : CallMarks → Prop
  | chanStart (h : cel.eventtype = .chanStart) :
      CallerMarks cel marks
        { marks with
          date := some cel.eventtime
          rawParticipants := marks.rawParticipants.upsert cel.channame {} fun p =>
            { p with role := some .source } }
  | chanEnd (h : cel.eventtype = .chanEnd) :
      CallerMarks cel marks { marks with dateEnd := some cel.eventtime }
  | bridge (h : cel.eventtype = .bridgeStart ∨ cel.eventtype = .bridgeEnter) :
      CallerMarks cel marks { marks with dateAnswer := some cel.eventtime }
  | meeting (exten : String) (h : cel.eventtype = .wazoMeetingName)
      (hexten : (Regex.matchStart meetingExtensionRegex exten.toList).isSome) :
      CallerMarks cel marks
        { marks with extensionFilter := marks.extensionFilter.addExten exten }
  | other (hstart : cel.eventtype ≠ .chanStart) (hend : cel.eventtype ≠ .chanEnd) :
      CallerMarks cel marks marks

namespace CallerCELInterpretor

lemma marks_interpretBridgeStartOrEnter
    (h : cel.eventtype = .bridgeStart ∨ cel.eventtype = .bridgeEnter) :
    Yields (interpretBridgeStartOrEnter x cel call) fun call' =>
      CallerMarks cel call.marks call'.marks := by
  refine .bind fun bridge _ => .pure ?_
  by_cases hanswer : call.dateAnswer = none ∧
      bridge.all (fun b => !b.technology.pyEq (.str "holding_bridge")) = true
  · simp only [RawCallLog.marks, if_pos hanswer]
    exact .bridge h
  · simp only [RawCallLog.marks, if_neg hanswer]
    exact .other (by rintro hstart; simp [hstart] at h) (by rintro hend; simp [hend] at h)

lemma marks_interpretWazoMeetingName (h : cel.eventtype = .wazoMeetingName) :
    Yields (interpretWazoMeetingName x cel call) fun call' =>
      CallerMarks cel call.marks call'.marks := by
  have hother : CallerMarks cel call.marks call.marks :=
    .other (by rw [h]; exact CELEventType.noConfusion) (by rw [h]; exact CELEventType.noConfusion)
  refine interpretWazoMeetingName_yields.mono ?_
  rintro _ (rfl | ⟨name, rfl | ⟨exten, hexten, rfl⟩⟩)
  · exact hother
  · exact hother
  · exact .meeting exten h hexten

lemma marks_interpretMixmonitorStart :
    Yields (interpretMixmonitorStart x cel call) fun call' => call'.marks = call.marks :=
  part_interpretMixmonitorStart fun _ _ => rfl

lemma marks_interpretMixmonitorStop :
    Yields (interpretMixmonitorStop x cel call) fun call' => call'.marks = call.marks :=
  part_interpretMixmonitorStop fun _ _ => rfl

/-- The marks after an event of the caller's channel. -/
lemma marks_interpretCel :
    Yields (interpretCel x cel call) fun call' => CallerMarks cel call.marks call'.marks := by
  have hsame : ∀ {m : Except PyError RawCallLog}, cel.eventtype ≠ .chanStart →
      cel.eventtype ≠ .chanEnd → Yields m (fun call' => call'.marks = call.marks) →
        Yields m fun call' => CallerMarks cel call.marks call'.marks :=
    fun hstart hend hm => hm.mono fun call' h => h ▸ .other hstart hend
  rw [interpretCel]
  cases htype : cel.eventtype with
  | chanStart => exact .ok (.chanStart htype)
  | chanEnd => exact .ok (.chanEnd htype)
  | bridgeStart => exact marks_interpretBridgeStartOrEnter (.inl htype)
  | bridgeEnter => exact marks_interpretBridgeStartOrEnter (.inr htype)
  | wazoMeetingName => exact marks_interpretWazoMeetingName htype
  | appStart =>
    exact hsame (by simp [htype]) (by simp [htype])
      (.ok (congrArg Prod.snd core_interpretAppStart))
  | mixmonitorStart =>
    exact hsame (by simp [htype]) (by simp [htype])
      marks_interpretMixmonitorStart
  | mixmonitorStop => exact hsame (by simp [htype]) (by simp [htype]) marks_interpretMixmonitorStop
  | xivoIncall =>
    exact hsame (by simp [htype]) (by simp [htype])
      keepsCore_interpretXivoIncall.marks
  | xivoOutcall =>
    exact hsame (by simp [htype]) (by simp [htype])
      (.ok (congrArg Prod.snd core_interpretXivoOutcall))
  | xivoUserFwd =>
    exact hsame (by simp [htype]) (by simp [htype])
      keepsCore_interpretXivoUserFwd.marks
  | wazoConference =>
    exact hsame (by simp [htype]) (by simp [htype])
      keepsCore_interpretWazoConference.marks
  | wazoUserMissedCall =>
    exact hsame (by simp [htype]) (by simp [htype])
      keepsCore_interpretWazoUserMissedCall.marks
  | wazoUserBlockedCall =>
    exact hsame (by simp [htype]) (by simp [htype])
      keepsCore_interpretWazoUserBlockedCall.marks
  | wazoCallLogDestination =>
    exact hsame (by simp [htype]) (by simp [htype])
      keepsCore_interpretWazoCallLogDestination.marks
  | wazoCallLogRequestedInternal =>
    exact hsame (by simp [htype]) (by simp [htype])
      keepsCore_interpretWazoCallLogRequestedInternal.marks
  | _ => exact hsame (by simp [htype]) (by simp [htype]) (.ok rfl)

end CallerCELInterpretor

/-! ### The callees -/

namespace CalleeCELInterpretor

/-- The marks after an event of a callee's channel. -/
def calleeMarks (cel : CEL) (marks : CallMarks) : CallMarks :=
  match cel.eventtype with
  | .chanStart => startedMarks cel marks
  | .bridgeStart => bridgedMarks cel marks
  | .bridgeEnter => bridgedMarks cel marks
  | _ => marks

lemma marks_interpretMixmonitorStart :
    Yields (interpretMixmonitorStart x cel call) fun call' => call'.marks = call.marks :=
  part_interpretMixmonitorStart fun _ _ => rfl

variable (cel call) in
/-- The first bridge changes neither the caller ids nor the authority of the destination. -/
lemma setDestinationFromFirstBridge_lookup :
    (setDestinationFromFirstBridge cel call).callerIdByChannels = call.callerIdByChannels ∧
      (setDestinationFromFirstBridge cel call).authoritativeDestinationInfo =
        call.authoritativeDestinationInfo := by
  rw [setDestinationFromFirstBridge]
  split <;> exact ⟨rfl, rfl⟩

lemma marks_interpretCel :
    Yields (interpretCel x cel call) fun call' => call'.marks = calleeMarks cel call.marks := by
  rw [interpretCel, calleeMarks]
  cases cel.eventtype with
  | chanStart => exact .ok (congrArg Prod.snd core_interpretChanStart)
  | bridgeStart => exact core_interpretBridgeEnter.mono fun _ h => congrArg Prod.snd h
  | bridgeEnter => exact core_interpretBridgeEnter.mono fun _ h => congrArg Prod.snd h
  | appStart => exact .ok (congrArg Prod.snd core_interpretVoicemailAppStart)
  | mixmonitorStart => exact marks_interpretMixmonitorStart
  | mixmonitorStop => exact CallerCELInterpretor.marks_interpretMixmonitorStop
  | wazoCallLogRequestedInternal => exact keepsCore_interpretRequestedInternal.marks
  | _ => exact .ok rfl

end CalleeCELInterpretor

/-! ### Runs -/

namespace DispatchCELInterpretor

variable {cels done : List CEL} {call' : RawCallLog}

/-- The callees' events that come first have been interpreted, after the caller's. -/
def Reaches (x : Externals) (cels : List CEL) (call : RawCallLog) (done : List CEL)
    (state : RawCallLog) : Prop :=
  ∃ call₁, CallerCELInterpretor.interpretCels x (splitCallerCalleeCels cels).1 call = .ok call₁ ∧
    CalleeCELInterpretor.interpretCels x done call₁ = .ok state

lemma reaches_of_interpretCels (h : interpretCels x cels call = .ok call') :
    Reaches x cels call (splitCallerCalleeCels cels).2 call' := exists_of_bind_eq_ok h

end DispatchCELInterpretor

end CallLogd
