/-
The segments of the recordings of a call.

A MIXMONITOR_START opens a segment.  The later events that an interpretor applies
to it are its stops, of which the last one counts, and the channel ends, which
count if nothing has stopped it.
-/
import CallLogd.Interpretor.Frame

namespace CallLogd

open Results

variable {x : Externals}

/-- A segment of a recording, with the times of the events that are applied to it. -/
structure Segment where
  uuid : Option RecordingUuid
  path : Json
  mixmonitorId : Json
  start : DateTime
  /-- The stops, in the order in which they are applied. -/
  stops : List DateTime
  /-- The channel ends, of which the latest counts. -/
  ends : List DateTime

/-- The recording of a segment. -/
def Segment.recording (segment : Segment) : Recording where
  uuid := segment.uuid
  startTime := some segment.start
  endTime := segment.stops.getLast?.or segment.ends.max?
  path := segment.path
  mixmonitorId := segment.mixmonitorId
  endTimeIsFinal := !segment.stops.isEmpty

/-! ### Events -/

/-- The file name and the identifier of a MIXMONITOR_START that is not ignored. -/
def readStart (x : Externals) (cel : CEL) : Option (Json × Json) :=
  match cel.eventtype, mixmonitorStart x cel with
  | .mixmonitorStart, .ok start => start
  | _, _ => none

/-- The identifier of a MIXMONITOR_STOP that is not ignored. -/
def readStop (x : Externals) (cel : CEL) : Option Json :=
  match cel.eventtype, mixmonitorStop x cel with
  | .mixmonitorStop, .ok stop => stop
  | _, _ => none

lemma readStart_eq {cel : CEL} {start : Option (Json × Json)}
    (htype : cel.eventtype = .mixmonitorStart) (h : mixmonitorStart x cel = .ok start) :
    readStart x cel = start := by
  rw [readStart, htype, h]

lemma readStop_eq {cel : CEL} {stop : Option Json} (htype : cel.eventtype = .mixmonitorStop)
    (h : mixmonitorStop x cel = .ok stop) : readStop x cel = stop := by
  rw [readStop, htype, h]

/-- The time at which an event stops the recordings with an identifier. -/
def stopTime (x : Externals) (mixmonitorId : Json) (cel : CEL) : Option DateTime :=
  (readStop x cel).bind fun id => if mixmonitorId.pyEq id then some cel.eventtime else none

/-- The times at which events stop the recordings with an identifier. -/
def stopTimes (x : Externals) (mixmonitorId : Json) (cels : List CEL) : List DateTime :=
  cels.filterMap (stopTime x mixmonitorId)

/-- The times of the channel ends. -/
def endTimes (cels : List CEL) : List DateTime :=
  (cels.filter fun cel => cel.eventtype = .chanEnd).map (·.eventtime)

/-! ### The two sides of a call -/

/-- The segments of the caller's side.  The events of the callees come after, and
the first end of the caller's channel is the only one that counts. -/
def callerSegments (x : Externals) (calleeCels : List CEL) : ℕ → List CEL → List Segment
  | _, [] => []
  | n, cel :: cels =>
      match readStart x cel with
      | none => callerSegments x calleeCels n cels
      | some (path, mixmonitorId) =>
          { uuid := (newCallerRecording n cel path mixmonitorId).uuid
            path := path
            mixmonitorId := mixmonitorId
            start := cel.eventtime
            stops := stopTimes x mixmonitorId cels ++ stopTimes x mixmonitorId calleeCels
            ends := (endTimes cels).take 1 ++ endTimes calleeCels } ::
          callerSegments x calleeCels (n + 1) cels

/-- The segments of the callees' side. -/
def calleeSegments (x : Externals) : List CEL → List Segment
  | [] => []
  | cel :: cels =>
      match readStart x cel with
      | none => calleeSegments x cels
      | some (path, mixmonitorId) =>
          { uuid := (newCalleeRecording cel path mixmonitorId).uuid
            path := path
            mixmonitorId := mixmonitorId
            start := cel.eventtime
            stops := stopTimes x mixmonitorId cels
            ends := endTimes cels } :: calleeSegments x cels

/-- The segments of a call that is split into the two sides. -/
def dispatchSegments (x : Externals) (cels : List CEL) : List Segment :=
  let (callerCels, calleeCels) := DispatchCELInterpretor.splitCallerCalleeCels cels
  callerSegments x calleeCels 0 callerCels ++ calleeSegments x calleeCels

section Opened

variable {calleeCels cels : List CEL} {n : ℕ} {segment : Segment}

/-- A segment of the caller's side is opened by a start, and ended by the events after it and
those of the callees. -/
lemma exists_of_mem_callerSegments (h : segment ∈ callerSegments x calleeCels n cels) :
    ∃ cel later path mixmonitorId, cel :: later <:+ cels ∧
      readStart x cel = some (path, mixmonitorId) ∧ ∃ k < n + cels.length, segment =
        { uuid := (newCallerRecording k cel path mixmonitorId).uuid
          path := path
          mixmonitorId := mixmonitorId
          start := cel.eventtime
          stops := stopTimes x mixmonitorId later ++ stopTimes x mixmonitorId calleeCels
          ends := (endTimes later).take 1 ++ endTimes calleeCels } := by
  induction cels generalizing n with
  | nil => cases h
  | cons cel cels ih =>
      rw [callerSegments] at h
      split at h
      · obtain ⟨start, later, path, mixmonitorId, hsuffix, hread, k, hk, heq⟩ := ih h
        refine ⟨start, later, path, mixmonitorId, hsuffix.trans (List.suffix_cons _ _), hread, k,
          ?_, heq⟩
        rw [List.length_cons]
        omega
      · next path mixmonitorId hread =>
          rcases List.mem_cons.1 h with rfl | h
          · refine ⟨cel, cels, path, mixmonitorId, List.suffix_rfl, hread, n, ?_, rfl⟩
            rw [List.length_cons]
            omega
          · obtain ⟨start, later, path, mixmonitorId, hsuffix, hread, k, hk, heq⟩ := ih h
            refine ⟨start, later, path, mixmonitorId, hsuffix.trans (List.suffix_cons _ _), hread,
              k, ?_, heq⟩
            rw [List.length_cons]
            omega

lemma exists_of_mem_calleeSegments (h : segment ∈ calleeSegments x cels) :
    ∃ cel later path mixmonitorId, cel :: later <:+ cels ∧
      readStart x cel = some (path, mixmonitorId) ∧ segment =
        { uuid := (newCalleeRecording cel path mixmonitorId).uuid
          path := path
          mixmonitorId := mixmonitorId
          start := cel.eventtime
          stops := stopTimes x mixmonitorId later
          ends := endTimes later } := by
  induction cels with
  | nil => cases h
  | cons cel cels ih =>
      rw [calleeSegments] at h
      split at h
      · obtain ⟨start, later, path, mixmonitorId, hsuffix, hread, heq⟩ := ih h
        exact ⟨start, later, path, mixmonitorId, hsuffix.trans (List.suffix_cons _ _), hread, heq⟩
      · next path mixmonitorId hread =>
          rcases List.mem_cons.1 h with rfl | h
          · exact ⟨cel, cels, path, mixmonitorId, List.suffix_rfl, hread, rfl⟩
          · obtain ⟨start, later, path, mixmonitorId, hsuffix, hread, heq⟩ := ih h
            exact ⟨start, later, path, mixmonitorId, hsuffix.trans (List.suffix_cons _ _), hread,
              heq⟩

end Opened

/-! ### An originated call -/

/-- The events of a type. -/
def eventsOf (eventtype : CELEventType) (cels : List CEL) : List CEL :=
  cels.filter fun cel => cel.eventtype = eventtype

/-- The stops that are applied: none if a start is ignored, and those before the
first stop that is ignored. -/
def localStops (x : Externals) (cels : List CEL) : List CEL :=
  if (eventsOf .mixmonitorStart cels).all fun cel => (readStart x cel).isSome then
    (eventsOf .mixmonitorStop cels).takeWhile fun cel => (readStop x cel).isSome
  else []

/-- The segments of an originated call.  The end of the source channel counts if
no MIXMONITOR event is ignored. -/
def localSegments (x : Externals) (cels : List CEL) : List Segment :=
  match LocalOriginateCELInterpretor.startingEvents cels with
  | none => []
  | some ev =>
      let complete := (eventsOf .mixmonitorStart cels).all (fun cel => (readStart x cel).isSome) &&
        (eventsOf .mixmonitorStop cels).all fun cel => (readStop x cel).isSome
      let starts := (eventsOf .mixmonitorStart cels).takeWhile fun cel => (readStart x cel).isSome
      starts.filterMap fun cel => (readStart x cel).map fun start =>
        { uuid := none
          path := start.1
          mixmonitorId := start.2
          start := cel.eventtime
          stops := stopTimes x start.2 (localStops x cels)
          ends := if complete then [ev.sourceChannelEnd.eventtime] else [] }

/-- The segments that an interpretor finds. -/
def CELInterpretor.segments (x : Externals) : CELInterpretor → List CEL → List Segment
  | localOriginate => localSegments x
  | dispatch => dispatchSegments x

/-! ### The recordings of the segments -/

/-- What an event that opens no recording does to one. -/
def touch (x : Externals) (endRecording : DateTime → Recording → Recording)
    (recording : Recording) (cel : CEL) : Recording :=
  match cel.eventtype with
  | .mixmonitorStop =>
      match mixmonitorStop x cel with
      | .ok (some mixmonitorId) =>
          CallerCELInterpretor.stopRecording cel.eventtime mixmonitorId recording
      | _ => recording
  | .chanEnd => endRecording cel.eventtime recording
  | _ => recording

section Fold

variable {newRecording : ℕ → CEL → Json → Json → Recording}
  {endRecording : DateTime → Recording → Recording} {recordings : List Recording} {cel : CEL}
  {cels : List CEL} {recording : Recording}

/-- An event changes each recording, and may open one. -/
lemma recordingStep_eq : recordingStep x newRecording endRecording recordings cel =
    recordings.map (touch x endRecording · cel) ++
      ((readStart x cel).map fun p => newRecording recordings.length cel p.1 p.2).toList := by
  unfold recordingStep touch readStart
  cases cel.eventtype with
  | mixmonitorStart => cases mixmonitorStart x cel with
      | error e => simp
      | ok start => cases start <;> simp
  | mixmonitorStop => cases mixmonitorStop x cel with
      | error e => simp
      | ok stop => cases stop <;> simp
  | _ => simp

/-- The recordings that events open, as the later events leave them. -/
def openedRecordings (x : Externals) (newRecording : ℕ → CEL → Json → Json → Recording)
    (endRecording : DateTime → Recording → Recording) : ℕ → List CEL → List Recording
  | _, [] => []
  | n, cel :: cels =>
      match readStart x cel with
      | none => openedRecordings x newRecording endRecording n cels
      | some (path, mixmonitorId) =>
          cels.foldl (touch x endRecording) (newRecording n cel path mixmonitorId) ::
            openedRecordings x newRecording endRecording (n + 1) cels

lemma foldl_recordingStep : cels.foldl (recordingStep x newRecording endRecording) recordings =
    recordings.map (cels.foldl (touch x endRecording)) ++
      openedRecordings x newRecording endRecording recordings.length cels := by
  induction cels generalizing recordings with
  | nil => simp [openedRecordings]
  | cons cel cels ih =>
      rw [List.foldl_cons, ih, recordingStep_eq, openedRecordings]
      cases readStart x cel with
      | none => simp [Function.comp_def]
      | some p => simp [Function.comp_def]

/-- A stop overrides what came before, and a channel end acts as its side says. -/
lemma touch_eq : touch x endRecording recording cel =
    match stopTime x recording.mixmonitorId cel with
    | some t => { recording with endTime := some t, endTimeIsFinal := true }
    | none => if cel.eventtype = .chanEnd then endRecording cel.eventtime recording else recording
    := by
  unfold touch stopTime readStop CallerCELInterpretor.stopRecording
  cases cel.eventtype with
  | mixmonitorStop =>
      cases mixmonitorStop x cel with
      | error e => simp
      | ok stop =>
          cases stop with
          | none => simp
          | some id => cases hid : recording.mixmonitorId.pyEq id <;> simp [hid]
  | _ => simp

lemma stopTimes_cons (id : Json) :
    stopTimes x id (cel :: cels) = (stopTime x id cel).toList ++ stopTimes x id cels := by
  cases h : stopTime x id cel <;> simp [stopTimes, h]

lemma endTimes_cons :
    endTimes (cel :: cels) =
      (if cel.eventtype = .chanEnd then [cel.eventtime] else []) ++ endTimes cels := by
  by_cases h : cel.eventtype = .chanEnd <;> simp [endTimes, h]

/-- The end of a recording after the events of the caller's side. -/
lemma foldl_touch_caller : cels.foldl (touch x CallerCELInterpretor.endRecording) recording =
    { recording with
      endTime := (stopTimes x recording.mixmonitorId cels).getLast?.or
        (recording.endTime.or (endTimes cels).head?)
      endTimeIsFinal :=
        recording.endTimeIsFinal || !(stopTimes x recording.mixmonitorId cels).isEmpty } := by
  induction cels generalizing recording with
  | nil => simp [stopTimes, endTimes]
  | cons cel cels ih =>
      rw [List.foldl_cons, ih, touch_eq, stopTimes_cons, endTimes_cons]
      cases hstop : stopTime x recording.mixmonitorId cel with
      | some t => simp [List.getLast?_cons]
      | none =>
          by_cases hend : cel.eventtype = .chanEnd
          · -- a channel end only counts for a recording without end
            cases hendTime : recording.endTime <;>
              simp [hend, CallerCELInterpretor.endRecording, hendTime]
          · simp [hend]

/-- A channel end of a callee keeps the latest end. -/
lemma callee_endRecording_eq {t : DateTime} (h : recording.endTimeIsFinal = false) :
    CalleeCELInterpretor.endRecording t recording =
      { recording with endTime := some (recording.endTime.elim t (max · t)) } := by
  obtain ⟨uuid, startTime, endTime, path, mixmonitorId, endTimeIsFinal⟩ := recording
  cases endTime with
  | none => simp_all [CalleeCELInterpretor.endRecording]
  | some e =>
      by_cases hlt : e < t
      · simp_all [CalleeCELInterpretor.endRecording, max_eq_right hlt.le]
      · simp_all [CalleeCELInterpretor.endRecording]

/-- The end of a recording after the events of the callees' side. -/
lemma foldl_touch_callee : cels.foldl (touch x CalleeCELInterpretor.endRecording) recording =
    { recording with
      endTime := (stopTimes x recording.mixmonitorId cels).getLast?.or
        (if recording.endTimeIsFinal then recording.endTime
          else (recording.endTime.toList ++ endTimes cels).max?)
      endTimeIsFinal :=
        recording.endTimeIsFinal || !(stopTimes x recording.mixmonitorId cels).isEmpty } := by
  induction cels generalizing recording with
  | nil =>
      obtain ⟨uuid, startTime, endTime, path, mixmonitorId, endTimeIsFinal⟩ := recording
      cases endTime <;> simp [stopTimes, endTimes]
  | cons cel cels ih =>
      rw [List.foldl_cons, ih, touch_eq, stopTimes_cons, endTimes_cons]
      cases hstop : stopTime x recording.mixmonitorId cel with
      | some t => simp [List.getLast?_cons]
      | none =>
          by_cases hend : cel.eventtype = .chanEnd
          · cases hfinal : recording.endTimeIsFinal with
            | true => simp [hend, CalleeCELInterpretor.endRecording, hfinal]
            | false =>
                -- the later of the two ends is kept
                simp only [hend, if_true, callee_endRecording_eq hfinal]
                cases recording.endTime <;> cases hmax : (endTimes cels).max? <;>
                  simp [hfinal, hmax, List.max?_cons, max_assoc]
          · simp [hend]

end Fold

/-- The end of a recording that has gone through the events of both sides. -/
lemma dispatch_endTime (stops stops' ends ends' : List DateTime) :
    stops'.getLast?.or (if !stops.isEmpty then stops.getLast?.or ends.head?
        else ((stops.getLast?.or ends.head?).toList ++ ends').max?) =
      (stops ++ stops').getLast?.or (ends.take 1 ++ ends').max? := by
  cases stops with
  | nil => cases ends <;> simp
  | cons t stops => simp [List.getLast?_append, List.getLast?_cons]

lemma map_recording_callerSegments (calleeCels : List CEL) (n : ℕ) (cels : List CEL) :
    (callerSegments x calleeCels n cels).map Segment.recording =
      (openedRecordings x newCallerRecording CallerCELInterpretor.endRecording n cels).map
        (calleeCels.foldl (touch x CalleeCELInterpretor.endRecording)) := by
  induction cels generalizing n with
  | nil => rfl
  | cons cel cels ih =>
      rw [callerSegments, openedRecordings]
      cases readStart x cel with
      | none => exact ih n
      | some p =>
          simp only [List.map_cons, ih, foldl_touch_caller, foldl_touch_callee]
          congr 1
          simp only [Segment.recording, newCallerRecording, Option.none_or, Bool.false_or,
            dispatch_endTime]
          cases stopTimes x p.2 cels <;> simp

lemma map_recording_calleeSegments (n : ℕ) (cels : List CEL) :
    (calleeSegments x cels).map Segment.recording =
      openedRecordings x (fun _ => newCalleeRecording) CalleeCELInterpretor.endRecording n
        cels := by
  induction cels generalizing n with
  | nil => rfl
  | cons cel cels ih =>
      rw [calleeSegments, openedRecordings]
      cases readStart x cel with
      | none => exact ih n
      | some p =>
          simp only [List.map_cons, ih (n + 1), foldl_touch_callee]
          simp [Segment.recording, newCalleeRecording]

/-- The recordings of a call that is split are those of its segments. -/
lemma dispatchRecordings_eq (cels : List CEL) :
    dispatchRecordings x cels [] = (dispatchSegments x cels).map Segment.recording := by
  rw [dispatchRecordings, dispatchSegments]
  dsimp only
  rw [foldl_recordingStep, foldl_recordingStep, ← map_recording_calleeSegments,
    List.map_append, List.map_append, map_recording_callerSegments]
  rfl

/-! ### The recordings of an originated call -/

namespace LocalOriginateCELInterpretor

variable {cels : List CEL} {recordings : List Recording} {flow : Flow}

/-- A loop goes on if its events are not ignored. -/
def Flow.of (complete : Bool) (recordings : List Recording) : Flow :=
  if complete then .next recordings else .leave recordings

/-- The recordings that the starts before an ignored one open. -/
def openedLocally (x : Externals) (cels : List CEL) : List Recording :=
  ((eventsOf .mixmonitorStart cels).takeWhile fun cel => (readStart x cel).isSome).filterMap
    fun cel => (readStart x cel).map fun start =>
      { startTime := some cel.eventtime, path := start.1, mixmonitorId := start.2 }

lemma addRecordings_eq_ok (h : addRecordings x cels recordings = .ok flow) :
    flow = .of ((eventsOf .mixmonitorStart cels).all fun cel => (readStart x cel).isSome)
      (recordings ++ openedLocally x cels) := by
  induction cels generalizing recordings with
  | nil =>
      obtain rfl := Except.ok.inj h
      simp [eventsOf, openedLocally, Flow.of]
  | cons cel cels ih =>
      rw [addRecordings] at h
      by_cases htype : cel.eventtype = .mixmonitorStart
      · rw [if_pos htype] at h
        cases hstart : mixmonitorStart x cel with
        | error e =>
            rw [hstart] at h
            cases h
        | ok start =>
            have hread := readStart_eq htype hstart
            rw [hstart] at h
            cases start with
            | none =>
                obtain rfl := Except.ok.inj h
                simp [eventsOf, openedLocally, htype, hread, Flow.of]
            | some start =>
                have hrest := ih h
                rw [hrest]
                simp [eventsOf, openedLocally, htype, hread]
      · rw [if_neg htype] at h
        rw [ih h]
        simp [eventsOf, openedLocally, htype]

lemma stopRecordings_eq_ok (h : stopRecordings x cels recordings = .ok flow) :
    flow = .of ((eventsOf .mixmonitorStop cels).all fun cel => (readStop x cel).isSome)
      (recordings.map (((eventsOf .mixmonitorStop cels).takeWhile fun cel =>
        (readStop x cel).isSome).foldl (touch x CallerCELInterpretor.endRecording))) := by
  induction cels generalizing recordings with
  | nil =>
      obtain rfl := Except.ok.inj h
      simp [eventsOf, Flow.of]
  | cons cel cels ih =>
      rw [stopRecordings] at h
      by_cases htype : cel.eventtype = .mixmonitorStop
      · rw [if_pos htype] at h
        cases hstop : mixmonitorStop x cel with
        | error e =>
            rw [hstop] at h
            cases h
        | ok stop =>
            have hread := readStop_eq htype hstop
            rw [hstop] at h
            cases stop with
            | none =>
                obtain rfl := Except.ok.inj h
                simp [eventsOf, htype, hread, Flow.of]
            | some id =>
                have htouch : ∀ recording, touch x CallerCELInterpretor.endRecording recording cel =
                    CallerCELInterpretor.stopRecording cel.eventtime id recording := by
                  intro recording
                  simp [touch, htype, hstop]
                have hrest := ih h
                rw [hrest]
                simp [eventsOf, htype, hread, htouch, Function.comp_def]
      · rw [if_neg htype] at h
        rw [ih h]
        simp [eventsOf, htype]

/-- No stop is a channel end. -/
lemma endTimes_localStops : endTimes (localStops x cels) = [] := by
  rw [endTimes, List.map_eq_nil_iff, List.filter_eq_nil_iff]
  intro cel hcel
  rw [localStops] at hcel
  split at hcel
  · have hmem := (List.takeWhile_sublist _).subset hcel
    have htype := of_decide_eq_true (List.mem_filter.1 hmem).2
    simp [htype]
  · cases hcel

/-- The recordings are those of the segments if each start has the recording of
its segment. -/
lemma map_recording_localSegments {ev : StartingEvents} (hev : startingEvents cels = some ev)
    {f : Recording → Recording}
    (hf : ∀ (t : DateTime) (path mixmonitorId : Json),
      f { startTime := some t, path := path, mixmonitorId := mixmonitorId } =
        Segment.recording
          { uuid := none, path := path, mixmonitorId := mixmonitorId, start := t
            stops := stopTimes x mixmonitorId (localStops x cels)
            ends := if (eventsOf .mixmonitorStart cels).all (fun cel => (readStart x cel).isSome) &&
              (eventsOf .mixmonitorStop cels).all (fun cel => (readStop x cel).isSome)
              then [ev.sourceChannelEnd.eventtime] else [] }) :
    (localSegments x cels).map Segment.recording = (openedLocally x cels).map f := by
  rw [localSegments, hev, openedLocally, List.map_filterMap, List.map_filterMap]
  refine List.filterMap_congr fun cel _ => ?_
  cases readStart x cel with
  | none => rfl
  | some start => exact congrArg some (hf _ _ _).symm

/-- The recordings that the loops leave, whether they go on or not. -/
lemma recordings_interpretRecordings (dateEnd : Option DateTime) :
    Yields (interpretRecordings x cels dateEnd []) fun flow => flow.recordings =
      if (eventsOf .mixmonitorStart cels).all fun cel => (readStart x cel).isSome then
        let stopped := (openedLocally x cels).map
          ((localStops x cels).foldl (touch x CallerCELInterpretor.endRecording))
        if (eventsOf .mixmonitorStop cels).all fun cel => (readStop x cel).isSome then
          endRecordings dateEnd stopped
        else stopped
      else openedLocally x cels := by
  rw [interpretRecordings]
  refine .bind fun added hadded => ?_
  obtain rfl := addRecordings_eq_ok hadded
  cases hstarts : (eventsOf .mixmonitorStart cels).all fun cel => (readStart x cel).isSome with
  | false => exact .pure rfl
  | true =>
      have hlocal : localStops x cels = (eventsOf .mixmonitorStop cels).takeWhile
          fun cel => (readStop x cel).isSome := if_pos hstarts
      refine .bind fun stopped hstopped => ?_
      obtain rfl := stopRecordings_eq_ok hstopped
      rw [hlocal]
      cases (eventsOf .mixmonitorStop cels).all fun cel => (readStop x cel).isSome with
      | false => exact .pure rfl
      | true => exact .pure rfl

/-- The recordings of an originated call are those of its segments. -/
lemma localRecordings_eq {ev : StartingEvents} (hev : startingEvents cels = some ev) {flow : Flow}
    (h : interpretRecordings x cels (some ev.sourceChannelEnd.eventtime) [] = .ok flow) :
    localRecordings x cels [] = (localSegments x cels).map Segment.recording := by
  rw [localRecordings, hev]
  dsimp only
  rw [h]
  dsimp only
  rw [recordings_interpretRecordings _ flow h]
  split
  · next hstarts =>
      dsimp only
      split
      · next hstops =>
          rw [endRecordings, List.map_map, map_recording_localSegments hev]
          intro t path mixmonitorId
          rw [Function.comp_apply, foldl_touch_caller]
          cases hlast : (stopTimes x mixmonitorId (localStops x cels)).getLast? <;>
            simp [Segment.recording, hstarts, hstops, hlast, endTimes_localStops]
      · next hstops =>
          rw [map_recording_localSegments hev]
          intro t path mixmonitorId
          rw [foldl_touch_caller]
          simp [Segment.recording, hstops, endTimes_localStops]
  · next hstarts =>
      rw [map_recording_localSegments hev (f := id), List.map_id]
      simp [Segment.recording, localStops, hstarts, stopTimes]

/-- The recordings of an originated call that is interpreted without exception. -/
lemma recordings_interpretCels {call : RawCallLog} (hcall : call.recordings = []) :
    Yields (interpretCels x cels call) fun call' =>
      call'.recordings = (localSegments x cels).map Segment.recording := by
  intro call' h
  have hframe : call'.recordings = localRecordings x cels call.recordings :=
    congrArg CallFrame.recordings (frame_interpretCels cels call' h)
  rw [hframe, hcall]
  rw [interpretCels] at h
  cases hev : startingEvents cels with
  | none => simp [localRecordings, localSegments, hev]
  | some ev =>
      rw [hev] at h
      cases hflow : interpretRecordings x cels (some ev.sourceChannelEnd.eventtime)
          call.recordings with
      | error e =>
          have hflow : interpretRecordings x cels (setSource x ev call).dateEnd
              (setSource x ev call).recordings = .error e := hflow
          simp [hflow, bind, Except.bind] at h
      | ok flow => exact localRecordings_eq hev (hcall ▸ hflow)

end LocalOriginateCELInterpretor

/-- The recordings of an interpreted call are those of its segments. -/
lemma CELInterpretor.recordings_interpretCels {call : RawCallLog}
    (interpretor : CELInterpretor) (cels : List CEL) (hcall : call.recordings = []) :
    Yields (interpretor.interpretCels x cels call) fun call' =>
      call'.recordings = (interpretor.segments x cels).map Segment.recording := by
  cases interpretor with
  | localOriginate => exact LocalOriginateCELInterpretor.recordings_interpretCels hcall
  | dispatch =>
      intro call' h
      have hframe : call'.recordings = dispatchRecordings x cels call.recordings :=
        congrArg CallFrame.recordings (DispatchCELInterpretor.frame_interpretCels cels call' h)
      rw [hframe, hcall, dispatchRecordings_eq]
      rfl

end CallLogd
