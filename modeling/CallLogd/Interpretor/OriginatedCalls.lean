/-
The interpretation of an originated call: what its loops over the recordings read, and what
it does afterwards.
-/
import CallLogd.Interpretor.Parts

namespace CallLogd

open Results

variable {x : Externals} {cel : CEL} {call : RawCallLog}

namespace LocalOriginateCELInterpretor

/-! ### Loops that return at an ignored event -/

/-- How a loop over some events ends. -/
inductive LoopEnd where
  | done
  /-- An ignored event leaves the function. -/
  | ignored
  | raised (e : PyError)

/-- What a loop reads of the events, and how it ends. -/
def readLoop {β : Type} (read : CEL → Except PyError (Option β)) :
    List CEL → List (CEL × β) × LoopEnd
  | [] => ([], .done)
  | cel :: cels =>
      match read cel with
      | .error e => ([], .raised e)
      | .ok none => ([], .ignored)
      | .ok (some b) => ((cel, b) :: (readLoop read cels).1, (readLoop read cels).2)

/-- What the two loops over the recordings read, and how they end. -/
structure RecordingEvents where
  /-- The events that start a recording, with the file and the identifier. -/
  starts : List (CEL × Json × Json)
  stops : List (CEL × Json)
  loopEnd : LoopEnd

def startEvents (cels : List CEL) : List CEL :=
  cels.filter fun cel => cel.eventtype = .mixmonitorStart

def stopEvents (cels : List CEL) : List CEL :=
  cels.filter fun cel => cel.eventtype = .mixmonitorStop

def recordingEvents (x : Externals) (cels : List CEL) : RecordingEvents :=
  match readLoop (mixmonitorStart x) (startEvents cels) with
  | (starts, .done) =>
      let (stops, loopEnd) := readLoop (mixmonitorStop x) (stopEvents cels)
      { starts, stops, loopEnd }
  | (starts, loopEnd) => { starts, stops := [], loopEnd }

/-- The recording that an event starts. -/
def newRecording (start : CEL × Json × Json) : Recording where
  startTime := some start.1.eventtime
  path := start.2.1
  mixmonitorId := start.2.2

/-- When the recording of an identifier was last stopped. -/
def stopTime (stops : List (CEL × Json)) (mixmonitorId : Json) : Option DateTime :=
  ((stops.filter fun stop => mixmonitorId.pyEq stop.2).getLast?).map fun stop => stop.1.eventtime

/-- A recording that was stopped, or not. -/
def stoppedAt (recording : Recording) : Option DateTime → Recording
  | some t => { recording with endTime := some t, endTimeIsFinal := true }
  | none => recording

/-- The recordings that the loops make. -/
def RecordingEvents.recordings (events : RecordingEvents) : List Recording :=
  events.starts.map fun start => stoppedAt (newRecording start) (stopTime events.stops start.2.2)

lemma addRecordings_eq (cels : List CEL) (recordings : List Recording) :
    addRecordings x cels recordings =
      match readLoop (mixmonitorStart x) (startEvents cels) with
      | (starts, .done) => .ok (.next (recordings ++ starts.map newRecording))
      | (starts, .ignored) => .ok (.leave (recordings ++ starts.map newRecording))
      | (_, .raised e) => .error e := by
  induction cels generalizing recordings with
  | nil => simp [addRecordings, startEvents, readLoop]
  | cons cel cels ih =>
    rw [addRecordings]
    by_cases htype : cel.eventtype = .mixmonitorStart
    · have hcons : startEvents (cel :: cels) = cel :: startEvents cels :=
        List.filter_cons_of_pos (by simpa using htype)
      rw [if_pos htype, hcons, readLoop]
      cases mixmonitorStart x cel with
      | error e => rfl
      | ok found =>
        cases found with
        | none => simp [bind, Except.bind, pure, Except.pure]
        | some start =>
          refine (ih _).trans ?_
          rcases readLoop (mixmonitorStart x) (startEvents cels) with ⟨starts, _ | _ | e⟩
          · simp [newRecording]
          · simp [newRecording]
          · rfl
    · have hskip : startEvents (cel :: cels) = startEvents cels :=
        List.filter_cons_of_neg (by simpa using htype)
      rw [if_neg htype, hskip]
      exact ih recordings

/-- What all the stops make of a recording. -/
def stopAll (stops : List (CEL × Json)) (recording : Recording) : Recording :=
  stops.foldl (fun r stop => CallerCELInterpretor.stopRecording stop.1.eventtime stop.2 r) recording

lemma map_stopAll_nil (recordings : List Recording) : recordings.map (stopAll []) = recordings :=
  List.map_id recordings

lemma stopRecordings_eq (cels : List CEL) (recordings : List Recording) :
    stopRecordings x cels recordings =
      match readLoop (mixmonitorStop x) (stopEvents cels) with
      | (stops, .done) => .ok (.next (recordings.map (stopAll stops)))
      | (stops, .ignored) => .ok (.leave (recordings.map (stopAll stops)))
      | (_, .raised e) => .error e := by
  induction cels generalizing recordings with
  | nil => simp [stopRecordings, stopEvents, readLoop, map_stopAll_nil]
  | cons cel cels ih =>
    rw [stopRecordings]
    by_cases htype : cel.eventtype = .mixmonitorStop
    · have hcons : stopEvents (cel :: cels) = cel :: stopEvents cels :=
        List.filter_cons_of_pos (by simpa using htype)
      rw [if_pos htype, hcons, readLoop]
      cases mixmonitorStop x cel with
      | error e => rfl
      | ok found =>
        cases found with
        | none => simp [bind, Except.bind, pure, Except.pure, map_stopAll_nil]
        | some mixmonitorId =>
          refine (ih _).trans ?_
          rcases readLoop (mixmonitorStop x) (stopEvents cels) with ⟨stops, _ | _ | e⟩
          · simp only [List.map_map]
            rfl
          · simp only [List.map_map]
            rfl
          · rfl
    · have hskip : stopEvents (cel :: cels) = stopEvents cels :=
        List.filter_cons_of_neg (by simpa using htype)
      rw [if_neg htype, hskip]
      exact ih recordings

lemma stopTime_concat (stops : List (CEL × Json)) (stop : CEL × Json) (mixmonitorId : Json) :
    stopTime (stops ++ [stop]) mixmonitorId =
      if mixmonitorId.pyEq stop.2 then some stop.1.eventtime else stopTime stops mixmonitorId := by
  rw [stopTime, stopTime, List.filter_append]
  by_cases h : mixmonitorId.pyEq stop.2 = true <;> simp [h]

/-- Only the last stop of a recording counts. -/
lemma stopAll_eq (stops : List (CEL × Json)) (recording : Recording) :
    stopAll stops recording = stoppedAt recording (stopTime stops recording.mixmonitorId) := by
  induction stops using List.reverseRecOn with
  | nil => rfl
  | append_singleton stops stop ih =>
    have hid : ∀ t, (stoppedAt recording t).mixmonitorId = recording.mixmonitorId := by
      intro t
      cases t <;> rfl
    have hlast : stopAll (stops ++ [stop]) recording =
        CallerCELInterpretor.stopRecording stop.1.eventtime stop.2 (stopAll stops recording) :=
      List.foldl_append
    rw [hlast, ih, stopTime_concat, CallerCELInterpretor.stopRecording, hid]
    split
    · cases stopTime stops recording.mixmonitorId <;> rfl
    · rfl

/-- The recordings of a new call, and how their loops end. -/
lemma interpretRecordings_eq (cels : List CEL) (dateEnd : Option DateTime) :
    interpretRecordings x cels dateEnd [] =
      match (recordingEvents x cels).loopEnd with
      | .done => .ok (.next (endRecordings dateEnd (recordingEvents x cels).recordings))
      | .ignored => .ok (.leave (recordingEvents x cels).recordings)
      | .raised e => .error e := by
  have hunstopped : ∀ starts : List (CEL × Json × Json),
      starts.map newRecording = RecordingEvents.recordings ⟨starts, [], .ignored⟩ := fun _ => rfl
  have hstopped : ∀ (starts : List (CEL × Json × Json)) (stops : List (CEL × Json)) (loopEnd),
      (starts.map newRecording).map (stopAll stops) =
        RecordingEvents.recordings ⟨starts, stops, loopEnd⟩ := by
    intro starts stops loopEnd
    rw [List.map_map, RecordingEvents.recordings]
    exact List.map_congr_left fun start _ => stopAll_eq stops (newRecording start)
  rw [interpretRecordings, addRecordings_eq, recordingEvents]
  rcases readLoop (mixmonitorStart x) (startEvents cels) with ⟨starts, _ | _ | e⟩
  · simp only [bind, Except.bind, List.nil_append, stopRecordings_eq]
    rcases readLoop (mixmonitorStop x) (stopEvents cels) with ⟨stops, _ | _ | e⟩
    · simp only [hstopped starts stops .done]
      rfl
    · simp only [hstopped starts stops .ignored]
      rfl
    · rfl
  · simp only [bind, Except.bind, List.nil_append, hunstopped]
    rfl
  · rfl

/-! ### After the recordings -/

/-- What is interpreted after the recordings. -/
def afterRecordings (x : Externals) (cels : List CEL) (ev : StartingEvents) (call : RawCallLog) :
    Except PyError RawCallLog :=
  let call := setUserFieldAndVoicemail cels ev call
  match setDestination x cels ev call with
  | none => .ok call
  | some call => setOriginateAllLines x cels (setDirection cels call)

/-- The interpretation of a call without recordings, by the end of its loops. -/
lemma interpretCels_eq (cels : List CEL) (hcall : call.recordings = []) :
    interpretCels x cels call =
      match startingEvents cels with
      | none => .ok call
      | some ev =>
          match (recordingEvents x cels).loopEnd with
          | .done => afterRecordings x cels ev { setSource x ev call with
              recordings := endRecordings (some ev.sourceChannelEnd.eventtime)
                (recordingEvents x cels).recordings }
          | .ignored => .ok { setSource x ev call with
              recordings := (recordingEvents x cels).recordings }
          | .raised e => .error e := by
  unfold interpretCels
  cases startingEvents cels with
  | none => rfl
  | some ev =>
    have hrecordings : (setSource x ev call).recordings = [] := hcall
    dsimp only
    rw [hrecordings, interpretRecordings_eq]
    cases (recordingEvents x cels).loopEnd with
    | done =>
      simp only [bind, Except.bind, afterRecordings]
      rfl
    | ignored => rfl
    | raised e => rfl

/-! ### A call to which nothing is left to do -/

/-- What comes after the recordings has not been interpreted yet. -/
structure Untouched (call : RawCallLog) : Prop where
  userField : call.userField = none
  reachedVoicemail : call.reachedVoicemail = false
  dateAnswer : call.dateAnswer = none
  direction : call.direction = .internal
  requestedType : call.requestedType = none

/-- A call log as the generator hands it to an interpretor. -/
structure Fresh (call : RawCallLog) : Prop extends Untouched call where
  recordings : call.recordings = []

/-- The application of an event is a voicemail. -/
def runsVoicemail (cel : CEL) : Bool := Text.lower cel.appname.toList = "voicemail".toList

/-- No event tells the originator. -/
def OriginatorUnknown (x : Externals) (cels : List CEL) : Prop :=
  ∀ cel, (cels.find? fun cel => cel.eventtype = .wazoOriginateAllLines) = some cel →
    parseWazoOriginateAllLinesExtra x cel.extra = .ok none

/-- After the recordings the events tell nothing: no application was started on the first
channel and no voicemail anywhere; either the last channel to enter a bridge did not answer,
or there is none and the direction and the originator are unknown. -/
structure NothingLeft (x : Externals) (cels : List CEL) (ev : StartingEvents) : Prop where
  appStart : firstOf cels ev.localChannel1 .appStart = none
  voicemail : ∀ cel ∈ cels, cel.eventtype = .appStart → runsVoicemail cel = false
  destination :
    (∃ uniqueid, destinationChannel cels ev = some uniqueid ∧
      firstOf cels uniqueid .answer = none) ∨
    destinationChannel cels ev = none ∧
      (∀ cel ∈ cels, cel.eventtype ≠ .xivoIncall ∧ cel.eventtype ≠ .xivoOutcall) ∧
      OriginatorUnknown x cels

section After

variable {cels : List CEL} {ev : StartingEvents}

/-- What a voicemail leaves as it is. -/
structure VoicemailFrame where
  userField : Option String
  dateAnswer : Option DateTime
  direction : Direction
  requestedType : Option String
  recordings : List Recording

def voicemailFrame (call : RawCallLog) : VoicemailFrame :=
  ⟨call.userField, call.dateAnswer, call.direction, call.requestedType, call.recordings⟩

lemma reachedVoicemail_interpretVoicemailAppStart :
    (interpretVoicemailAppStart cel call).reachedVoicemail =
      (call.reachedVoicemail || runsVoicemail cel) := by
  rw [interpretVoicemailAppStart]
  split
  · next hcel => simp [runsVoicemail, hcel]
  · next hcel =>
    rw [runsVoicemail, decide_eq_false hcel, Bool.or_false]

lemma voicemailFrame_interpretVoicemailAppStart :
    voicemailFrame (interpretVoicemailAppStart cel call) = voicemailFrame call :=
  part_interpretVoicemailAppStart fun _ _ _ _ => rfl

/-- The voicemails of some events. -/
def voicemails (cels : List CEL) (call : RawCallLog) : RawCallLog :=
  cels.foldl (fun call cel => interpretVoicemailAppStart cel call) call

lemma voicemailFrame_voicemails (cels : List CEL) (call : RawCallLog) :
    voicemailFrame (voicemails cels call) = voicemailFrame call := by
  induction cels generalizing call with
  | nil => rfl
  | cons cel cels ih => exact (ih _).trans voicemailFrame_interpretVoicemailAppStart

lemma reachedVoicemail_voicemails (cels : List CEL) (call : RawCallLog) :
    (voicemails cels call).reachedVoicemail =
      (call.reachedVoicemail || cels.any runsVoicemail) := by
  induction cels generalizing call with
  | nil => rw [List.any_nil, Bool.or_false, voicemails, List.foldl_nil]
  | cons cel cels ih =>
    rw [List.any_cons, ← Bool.or_assoc, ← reachedVoicemail_interpretVoicemailAppStart]
    exact ih _

lemma voicemails_eq_self (cels : List CEL) (call : RawCallLog)
    (h : ∀ cel ∈ cels, runsVoicemail cel = false) : voicemails cels call = call := by
  induction cels with
  | nil => rfl
  | cons cel cels ih =>
    have hskip : interpretVoicemailAppStart cel call = call :=
      if_neg (of_decide_eq_false (h cel List.mem_cons_self))
    rw [voicemails, List.foldl_cons, hskip]
    exact ih fun cel' hcel' => h cel' (List.mem_cons_of_mem _ hcel')

/-- The fields of a call after its applications. -/
lemma fields_setUserFieldAndVoicemail (cels : List CEL) (ev : StartingEvents)
    (call : RawCallLog) :
    let call' := setUserFieldAndVoicemail cels ev call
    voicemailFrame call' = { voicemailFrame call with
      userField := ((firstOf cels ev.localChannel1 .appStart).map (·.userfield)).or
        call.userField } ∧
    call'.reachedVoicemail = (call.reachedVoicemail ||
      (cels.filter fun cel => cel.eventtype = .appStart).any runsVoicemail) := by
  dsimp only
  unfold setUserFieldAndVoicemail
  cases firstOf cels ev.localChannel1 .appStart with
  | none => exact ⟨voicemailFrame_voicemails _ _, reachedVoicemail_voicemails _ _⟩
  | some cel => exact ⟨voicemailFrame_voicemails _ _, reachedVoicemail_voicemails _ _⟩

lemma setUserFieldAndVoicemail_eq_self
    (happ : firstOf cels ev.localChannel1 .appStart = none)
    (hvoicemail : ∀ cel ∈ cels, cel.eventtype = .appStart → runsVoicemail cel = false) :
    setUserFieldAndVoicemail cels ev call = call := by
  unfold setUserFieldAndVoicemail
  rw [happ]
  refine voicemails_eq_self _ _ fun cel hcel => ?_
  obtain ⟨hmem, htype⟩ := List.mem_filter.1 hcel
  exact hvoicemail cel hmem (of_decide_eq_true htype)

/-- The destination is not set for one of two reasons, and otherwise it is answered. -/
lemma setDestination_cases (x : Externals) (cels : List CEL) (ev : StartingEvents)
    (call : RawCallLog) :
    setDestination x cels ev call = none ∧
      (∃ uniqueid, destinationChannel cels ev = some uniqueid ∧
        firstOf cels uniqueid .answer = none) ∨
    setDestination x cels ev call = some call ∧ destinationChannel cels ev = none ∨
    (∃ t, (setDestination x cels ev call).map (·.dateAnswer) = some (some t)) ∧
      ∃ uniqueid, destinationChannel cels ev = some uniqueid ∧
        firstOf cels uniqueid .answer ≠ none := by
  unfold setDestination
  cases hchannel : destinationChannel cels ev with
  | none => exact Or.inr (Or.inl ⟨rfl, rfl⟩)
  | some uniqueid =>
    -- the channel is that of a bridge event
    have hbridge : ∃ cel, (cels.filter fun cel =>
        cel.uniqueid = uniqueid ∧ cel.eventtype = .bridgeEnter).getLast? = some cel := by
      rw [destinationChannel, Option.filter_eq_some_iff, Option.map_eq_some_iff] at hchannel
      obtain ⟨⟨cel, hlast, rfl⟩, -⟩ := hchannel
      obtain ⟨hmem, hcel⟩ := List.mem_filter.1 (List.mem_of_getLast? hlast)
      refine Option.isSome_iff_exists.1 (List.getLast?_isSome.2 (List.ne_nil_of_mem
        (List.mem_filter.2 ⟨hmem, ?_⟩)))
      simp only [Bool.and_eq_true, decide_eq_true_eq] at hcel
      exact decide_eq_true ⟨rfl, hcel.2⟩
    obtain ⟨bridgeEnter, hbridge⟩ := hbridge
    cases hanswer : firstOf cels uniqueid .answer with
    | none => exact Or.inl ⟨by simp [hanswer], uniqueid, rfl, hanswer⟩
    | some answer =>
      refine Or.inr (Or.inr ⟨⟨bridgeEnter.eventtime, ?_⟩, uniqueid, rfl, ?_⟩)
      · simp only [Option.bind_eq_bind, hanswer, hbridge]
        rfl
      · simp [hanswer]

/-- What the originator leaves as it is. -/
structure OriginateFrame where
  userField : Option String
  reachedVoicemail : Bool
  dateAnswer : Option DateTime
  direction : Direction
  recordings : List Recording

def originateFrame (call : RawCallLog) : OriginateFrame :=
  ⟨call.userField, call.reachedVoicemail, call.dateAnswer, call.direction, call.recordings⟩

lemma setOriginateAllLines_of_unknown (h : OriginatorUnknown x cels) :
    setOriginateAllLines x cels call = .ok call := by
  unfold setOriginateAllLines
  cases hfind : cels.find? fun cel => cel.eventtype = .wazoOriginateAllLines with
  | none => rfl
  | some cel =>
    dsimp only
    rw [h cel hfind]
    rfl

/-- The originator is unknown, or the call gets a type. -/
lemma setOriginateAllLines_cases (x : Externals) (cels : List CEL) (call : RawCallLog) :
    OriginatorUnknown x cels ∨ Yields (setOriginateAllLines x cels call) fun call' =>
      originateFrame call' = originateFrame call ∧ call'.requestedType = some "all_lines" := by
  have htenant : ∀ tenantUuid, originateFrame (call.setTenantUuid tenantUuid) =
      originateFrame call := part_setTenantUuid fun _ _ => rfl
  have hinfo : ∀ (call : RawCallLog) info predicate, originateFrame
      (call.insertOrUpdateParticipantsInfo info predicate) = originateFrame call :=
    fun _ => part_insertOrUpdateParticipantsInfo fun _ _ => rfl
  unfold setOriginateAllLines OriginatorUnknown
  cases cels.find? fun cel => cel.eventtype = .wazoOriginateAllLines with
  | none => exact Or.inl fun _ h => by cases h
  | some cel =>
    dsimp only
    cases hparse : parseWazoOriginateAllLinesExtra x cel.extra with
    | error e => exact Or.inr .error
    | ok found =>
      cases found with
      | none =>
        refine Or.inl fun cel' hcel' => ?_
        rw [← Option.some.inj hcel', hparse]
      | some info =>
        refine Or.inr (.ok ⟨?_, rfl⟩)
        exact (hinfo _ _ _).trans (htenant info.tenantUuid)

/-- The payload of the event that tells the originator raises. -/
def OriginatorRaises (x : Externals) (cels : List CEL) : Prop :=
  ∃ cel e, (cels.find? fun cel => cel.eventtype = .wazoOriginateAllLines) = some cel ∧
    parseWazoOriginateAllLinesExtra x cel.extra = .error e

lemma completes_setOriginateAllLines (cels : List CEL) (call : RawCallLog) :
    Completes (setOriginateAllLines x cels call) ↔ ¬ OriginatorRaises x cels := by
  unfold setOriginateAllLines OriginatorRaises
  cases cels.find? fun cel => cel.eventtype = .wazoOriginateAllLines with
  | none => simp
  | some cel =>
    dsimp only
    cases hparse : parseWazoOriginateAllLinesExtra x cel.extra with
    | error e => simp [hparse, bind, Except.bind]
    | ok found => cases found <;> simp [hparse, bind, Except.bind]

/-- What comes after the recordings raises: the destination is not one without an answer, at
which the function returns, and the event that tells the originator raises. -/
def RaisesAfterRecordings (x : Externals) (cels : List CEL) (ev : StartingEvents) : Prop :=
  (∀ uniqueid, destinationChannel cels ev = some uniqueid →
    firstOf cels uniqueid .answer ≠ none) ∧ OriginatorRaises x cels

lemma completes_afterRecordings (cels : List CEL) (ev : StartingEvents) (call : RawCallLog) :
    Completes (afterRecordings x cels ev call) ↔ ¬ RaisesAfterRecordings x cels ev := by
  unfold afterRecordings
  dsimp only
  rcases setDestination_cases x cels ev (setUserFieldAndVoicemail cels ev call) with
    ⟨hnone, uniqueid, hchannel, hanswer⟩ | ⟨hsome, hchannel⟩ |
      ⟨⟨t, hanswered⟩, uniqueid, hchannel, hanswer⟩
  · rw [hnone]
    exact iff_of_true (completes_ok _) fun h => h.1 uniqueid hchannel hanswer
  · have hreached : ∀ uniqueid, destinationChannel cels ev = some uniqueid →
        firstOf cels uniqueid .answer ≠ none := by
      intro uniqueid huniqueid
      cases hchannel.symm.trans huniqueid
    rw [hsome, RaisesAfterRecordings, and_iff_right hreached]
    exact completes_setOriginateAllLines cels _
  · have hreached : ∀ uniqueid, destinationChannel cels ev = some uniqueid →
        firstOf cels uniqueid .answer ≠ none := by
      intro uniqueid' huniqueid'
      obtain rfl := Option.some.inj (hchannel.symm.trans huniqueid')
      exact hanswer
    rw [RaisesAfterRecordings, and_iff_right hreached]
    cases hdestination : setDestination x cels ev (setUserFieldAndVoicemail cels ev call) with
    | none => simp [hdestination] at hanswered
    | some call' => exact completes_setOriginateAllLines cels _

/-- A payload raises, of a recording that a loop reaches or of the originator. -/
def Raises (x : Externals) (cels : List CEL) (ev : StartingEvents) : Prop :=
  (∃ e, (recordingEvents x cels).loopEnd = .raised e) ∨
    (recordingEvents x cels).loopEnd = .done ∧ RaisesAfterRecordings x cels ev

lemma completes_interpretCels {ev : StartingEvents} (hcall : call.recordings = [])
    (hev : startingEvents cels = some ev) :
    Completes (interpretCels x cels call) ↔ ¬ Raises x cels ev := by
  rw [interpretCels_eq cels hcall, hev, Raises]
  dsimp only
  cases (recordingEvents x cels).loopEnd with
  | done => simp [completes_afterRecordings]
  | ignored => simp
  | raised e => simp

lemma direction_setDirection_iff (hdirection : call.direction = .internal) :
    (setDirection cels call).direction = .internal ↔
      ∀ cel ∈ cels, cel.eventtype ≠ .xivoIncall ∧ cel.eventtype ≠ .xivoOutcall := by
  have hnone : ∀ type, (cels.any fun cel => cel.eventtype = type) = false ↔
      ∀ cel ∈ cels, cel.eventtype ≠ type := by
    intro type
    simp
  simp only [forall_and, ← hnone, setDirection, hdirection]
  cases cels.any fun cel => cel.eventtype = .xivoIncall <;>
    cases cels.any fun cel => cel.eventtype = .xivoOutcall <;> decide

lemma dateAnswer_of_setOriginateAllLines {call' : RawCallLog}
    (h : setOriginateAllLines x cels call = .ok call') : call'.dateAnswer = call.dateAnswer := by
  rcases setOriginateAllLines_cases x cels call with hunknown | htyped
  · rw [setOriginateAllLines_of_unknown hunknown] at h
    rw [Except.ok.inj h]
  · exact congrArg OriginateFrame.dateAnswer (htyped call' h).1

/-- The applications are seen in the fields of the call. -/
lemma noApplications_of_untouched (cels : List CEL) (ev : StartingEvents)
    (huntouched : Untouched call)
    (huser : (setUserFieldAndVoicemail cels ev call).userField = call.userField)
    (hreached : (setUserFieldAndVoicemail cels ev call).reachedVoicemail =
      call.reachedVoicemail) :
    firstOf cels ev.localChannel1 .appStart = none ∧
      ∀ cel ∈ cels, cel.eventtype = .appStart → runsVoicemail cel = false := by
  obtain ⟨hframe, hvoicemail⟩ := fields_setUserFieldAndVoicemail cels ev call
  dsimp only at hframe hvoicemail
  constructor
  · have hfirst := huser.symm.trans (congrArg VoicemailFrame.userField hframe)
    cases happ : firstOf cels ev.localChannel1 .appStart with
    | none => rfl
    | some cel =>
      rw [happ] at hfirst
      cases huntouched.userField.symm.trans hfirst
  · intro cel hcel htype
    rw [hreached, huntouched.reachedVoicemail, Bool.false_or, eq_comm,
      List.any_eq_false] at hvoicemail
    simpa using hvoicemail cel (List.mem_filter.2 ⟨hcel, decide_eq_true htype⟩)

/-- The applications keep the directions and the recordings of a call. -/
lemma kept_setUserFieldAndVoicemail (cels : List CEL) (ev : StartingEvents)
    (call : RawCallLog) :
    (setUserFieldAndVoicemail cels ev call).direction = call.direction ∧
      (setUserFieldAndVoicemail cels ev call).recordings = call.recordings := by
  obtain ⟨hframe, -⟩ := fields_setUserFieldAndVoicemail cels ev call
  exact ⟨congrArg VoicemailFrame.direction hframe, congrArg VoicemailFrame.recordings hframe⟩

/-- What is done after the recordings shows in the call log. -/
lemma nothingLeft_of_afterRecordings_eq (huntouched : Untouched call)
    {recordings : List Recording}
    (h : afterRecordings x cels ev call = .ok { call with recordings := recordings }) :
    call.recordings = recordings ∧ NothingLeft x cels ev := by
  unfold afterRecordings at h
  dsimp only at h
  obtain ⟨hdirection, hrecordings⟩ := kept_setUserFieldAndVoicemail cels ev call
  have happs := noApplications_of_untouched cels ev huntouched
  generalize setUserFieldAndVoicemail cels ev call = call₁ at h hdirection hrecordings happs
  rcases setDestination_cases x cels ev call₁ with
    ⟨hnone, hunanswered⟩ | ⟨hsome, hchannel⟩ | ⟨⟨t, hanswered⟩, -⟩
  · rw [hnone] at h
    have hcall := Except.ok.inj h
    have huser := congrArg RawCallLog.userField hcall
    have hreached := congrArg RawCallLog.reachedVoicemail hcall
    obtain ⟨happ, hvoicemail⟩ := happs huser hreached
    exact ⟨hrecordings.symm.trans (congrArg RawCallLog.recordings hcall), happ, hvoicemail,
      Or.inl hunanswered⟩
  · rw [hsome] at h
    dsimp only at h
    rcases setOriginateAllLines_cases x cels (setDirection cels call₁) with hunknown | htyped
    · rw [setOriginateAllLines_of_unknown hunknown] at h
      have hcall := Except.ok.inj h
      have huser := congrArg RawCallLog.userField hcall
      have hreached := congrArg RawCallLog.reachedVoicemail hcall
      obtain ⟨happ, hvoicemail⟩ := happs huser hreached
      have hinternal : (setDirection cels call₁).direction = .internal :=
        (congrArg RawCallLog.direction hcall).trans huntouched.direction
      exact ⟨hrecordings.symm.trans (congrArg RawCallLog.recordings hcall), happ, hvoicemail,
        Or.inr ⟨hchannel, (direction_setDirection_iff
          (hdirection.trans huntouched.direction)).1 hinternal, hunknown⟩⟩
    · cases huntouched.requestedType.symm.trans (htyped _ h).2
  · -- an answered destination gives an answer time
    cases hdestination : setDestination x cels ev call₁ with
    | none => simp [hdestination] at hanswered
    | some call₂ =>
      rw [hdestination] at h hanswered
      dsimp only at h
      have hkept := dateAnswer_of_setOriginateAllLines h
      cases huntouched.dateAnswer.symm.trans (hkept.trans (Option.some.inj hanswered))

lemma afterRecordings_eq_self (huntouched : Untouched call) (hleft : NothingLeft x cels ev) :
    afterRecordings x cels ev call = .ok call := by
  have hsame : setUserFieldAndVoicemail cels ev call = call :=
    setUserFieldAndVoicemail_eq_self hleft.appStart hleft.voicemail
  unfold afterRecordings
  dsimp only
  rw [hsame]
  rcases setDestination_cases x cels ev call with
    ⟨hnone, -⟩ | ⟨hsome, hchannel⟩ | ⟨-, uniqueid, hchannel, hanswer⟩
  · rw [hnone]
  · rw [hsome]
    rcases hleft.destination with ⟨uniqueid, hchannel', -⟩ | ⟨-, hdirections, hunknown⟩
    · cases hchannel.symm.trans hchannel'
    · have hkeep : setDirection cels call = call := by
        have hinternal := (direction_setDirection_iff huntouched.direction).2 hdirections
        calc setDirection cels call
            = { call with direction := (setDirection cels call).direction } := rfl
          _ = call := by rw [hinternal, ← huntouched.direction]
      dsimp only
      rw [hkeep]
      exact setOriginateAllLines_of_unknown hunknown
  · rcases hleft.destination with ⟨uniqueid', hchannel', hunanswered⟩ | ⟨hchannel', -⟩
    · obtain rfl := Option.some.inj (hchannel.symm.trans hchannel')
      exact absurd hunanswered hanswer
    · cases hchannel.symm.trans hchannel'

/-- Nothing is done after the recordings if and only if nothing is left to do. -/
lemma afterRecordings_eq_iff (huntouched : Untouched call) (recordings : List Recording) :
    afterRecordings x cels ev call = .ok { call with recordings := recordings } ↔
      call.recordings = recordings ∧ NothingLeft x cels ev := by
  constructor
  · exact nothingLeft_of_afterRecordings_eq huntouched
  · rintro ⟨rfl, hleft⟩
    exact afterRecordings_eq_self huntouched hleft

lemma afterSource_eq_iff (hfresh : Fresh call) (recordings recordings' : List Recording) :
    afterRecordings x cels ev { setSource x ev call with recordings := recordings } =
        .ok { setSource x ev call with recordings := recordings' } ↔
      recordings = recordings' ∧ NothingLeft x cels ev := by
  have huntouched : Untouched { setSource x ev call with recordings := recordings } :=
    ⟨hfresh.userField, hfresh.reachedVoicemail, hfresh.dateAnswer, hfresh.direction,
      hfresh.requestedType⟩
  exact afterRecordings_eq_iff huntouched recordings'

end After

end LocalOriginateCELInterpretor

end CallLogd
