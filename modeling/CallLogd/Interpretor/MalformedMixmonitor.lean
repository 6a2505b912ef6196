/-
Malformed mixmonitor events, among the other events of a call.

The caller's and the callee's interpretors skip them.  The interpretor of originated calls
returns at the first one, so what it does afterwards must be nothing for the call to be the
same as without them.  A payload that cannot be decoded within the limits raises in all three.
-/
import CallLogd.Lib.Sequences
import CallLogd.Lib.Results
import CallLogd.Interpretor.OriginatedCalls
import CallLogd.Interpretor.Intervals

namespace CallLogd

open Results Sequences

/-! ### Malformed events -/

/-- The payload is missing, or lacks one of the keys. -/
def LacksKey (keys : List String) (extra : Json) : Prop :=
  extra.truthy = false ∨ ∃ fields key, extra = .obj fields ∧ key ∈ keys ∧
    ((fields.lookup key).getD Json.null).truthy = false

/-- If something can be decoded, it lacks one of the keys. -/
def LacksKeyOrRaises (x : Externals) (keys : List String) (cel : CEL) : Prop :=
  ∀ extra, extractCelExtra x cel.extra = .ok extra → LacksKey keys extra

inductive MalformedMixmonitor (x : Externals) (cel : CEL) : Prop
  | start (htype : cel.eventtype = .mixmonitorStart)
      (h : LacksKeyOrRaises x ["mixmonitor_id", "filename"] cel)
  | stop (htype : cel.eventtype = .mixmonitorStop)
      (h : LacksKeyOrRaises x ["mixmonitor_id"] cel)

variable {x : Externals} {cel : CEL} {call call' : RawCallLog}

lemma isValidMixmonitorStartExtra_eq_false {extra : Json}
    (h : LacksKey ["mixmonitor_id", "filename"] extra) :
    isValidMixmonitorStartExtra extra = .ok false := by
  unfold isValidMixmonitorStartExtra
  cases htruthy : extra.truthy with
  | false => rfl
  | true =>
    rcases h with hfalsy | ⟨fields, key, rfl, hkey, hfalsy⟩
    · cases hfalsy.symm.trans htruthy
    · simp only [getKey, bind, Except.bind, pure, Except.pure, Bool.not_true, Bool.false_eq_true,
        if_false]
      rcases List.mem_cons.1 hkey with rfl | hkey
      · simp [hfalsy]
      · obtain rfl := List.mem_singleton.1 hkey
        split
        · rfl
        · simp [hfalsy]

lemma isValidMixmonitorStopExtra_eq_false {extra : Json} (h : LacksKey ["mixmonitor_id"] extra) :
    isValidMixmonitorStopExtra extra = .ok false := by
  unfold isValidMixmonitorStopExtra
  cases htruthy : extra.truthy with
  | false => rfl
  | true =>
    rcases h with hfalsy | ⟨fields, key, rfl, hkey, hfalsy⟩
    · cases hfalsy.symm.trans htruthy
    · obtain rfl := List.mem_singleton.1 hkey
      simp [getKey, bind, Except.bind, pure, Except.pure, hfalsy]

/-- A malformed event is ignored, or raises what the decoder raises. -/
lemma mixmonitorStart_eq (h : LacksKeyOrRaises x ["mixmonitor_id", "filename"] cel) :
    mixmonitorStart x cel = (extractCelExtra x cel.extra).map fun _ => none := by
  unfold mixmonitorStart
  cases hextra : extractCelExtra x cel.extra with
  | error e => rfl
  | ok extra =>
    rw [ok_bind, isValidMixmonitorStartExtra_eq_false (h extra hextra)]
    rfl

lemma mixmonitorStop_eq (h : LacksKeyOrRaises x ["mixmonitor_id"] cel) :
    mixmonitorStop x cel = (extractCelExtra x cel.extra).map fun _ => none := by
  unfold mixmonitorStop
  cases hextra : extractCelExtra x cel.extra with
  | error e => rfl
  | ok extra =>
    rw [ok_bind, isValidMixmonitorStopExtra_eq_false (h extra hextra)]
    rfl

/-! ### The interpretors that skip them -/

/-- Events that are skipped unless they raise, among others. -/
lemma interpretEach_interleaving {f : CEL → RawCallLog → Except PyError RawCallLog}
    {cels malformed cels' : List CEL} (h : Interleaving cels malformed cels')
    (hskip : ∀ cel ∈ malformed, ∀ call, f cel call =
      (extractCelExtra x cel.extra).map fun _ => call) :
    interpretEach f cels' call = .ok call' ↔
      interpretEach f cels call = .ok call' ∧
        ∀ cel ∈ malformed, Completes (extractCelExtra x cel.extra) := by
  unfold interpretEach
  induction h generalizing call with
  | nil => simp
  | left cel _ ih =>
    rw [List.foldlM_cons, List.foldlM_cons]
    cases f cel call with
    | error e => exact iff_of_false (fun h => by cases h) fun h => by cases h.1
    | ok call₁ => exact ih hskip
  | right cel _ ih =>
    rw [List.foldlM_cons, hskip cel List.mem_cons_self, List.forall_mem_cons]
    cases extractCelExtra x cel.extra with
    | error e => exact iff_of_false (fun h => by cases h) fun h => not_completes_error e h.2.1
    | ok extra =>
      rw [and_iff_right (completes_ok extra)]
      exact ih fun cel' hcel' => hskip cel' (List.mem_cons_of_mem _ hcel')

lemma CallerCELInterpretor.interpretCel_malformed (h : MalformedMixmonitor x cel) :
    interpretCel x cel call = (extractCelExtra x cel.extra).map fun _ => call := by
  rcases h with ⟨htype, h⟩ | ⟨htype, h⟩
  · simp only [interpretCel, htype, interpretMixmonitorStart, mixmonitorStart_eq h]
    cases extractCelExtra x cel.extra <;> rfl
  · simp only [interpretCel, htype, interpretMixmonitorStop, mixmonitorStop_eq h]
    cases extractCelExtra x cel.extra <;> rfl

lemma CalleeCELInterpretor.interpretCel_malformed (h : MalformedMixmonitor x cel) :
    interpretCel x cel call = (extractCelExtra x cel.extra).map fun _ => call := by
  rcases h with ⟨htype, h⟩ | ⟨htype, h⟩
  · simp only [interpretCel, htype, interpretMixmonitorStart, mixmonitorStart_eq h]
    cases extractCelExtra x cel.extra <;> rfl
  · simp only [interpretCel, htype, interpretMixmonitorStop,
      CallerCELInterpretor.interpretMixmonitorStop, mixmonitorStop_eq h]
    cases extractCelExtra x cel.extra <;> rfl

section Skips

variable {cels malformed cels' : List CEL}

/-- The caller's interpretor ignores the malformed mixmonitor events that can be decoded. -/
theorem CallerCELInterpretor.interpretCels_malformed (h : Interleaving cels malformed cels')
    (hmalformed : ∀ cel ∈ malformed, MalformedMixmonitor x cel) :
    interpretCels x cels' call = .ok call' ↔
      interpretCels x cels call = .ok call' ∧
        ∀ cel ∈ malformed, Completes (extractCelExtra x cel.extra) :=
  interpretEach_interleaving h fun cel hcel _ => interpretCel_malformed (hmalformed cel hcel)

/-- The callee's interpretor ignores the malformed mixmonitor events that can be decoded. -/
theorem CalleeCELInterpretor.interpretCels_malformed (h : Interleaving cels malformed cels')
    (hmalformed : ∀ cel ∈ malformed, MalformedMixmonitor x cel) :
    interpretCels x cels' call = .ok call' ↔
      interpretCels x cels call = .ok call' ∧
        ∀ cel ∈ malformed, Completes (extractCelExtra x cel.extra) :=
  interpretEach_interleaving h fun cel hcel _ => interpretCel_malformed (hmalformed cel hcel)

end Skips

namespace LocalOriginateCELInterpretor

/-! ### The other events -/

/-- Two lists have the same events, apart from mixmonitor events. -/
def SameOthers (cels cels' : List CEL) : Prop :=
  ∀ p : CEL → Bool, (∀ cel, cel.eventtype = .mixmonitorStart ∨ cel.eventtype = .mixmonitorStop →
    p cel = false) → cels'.filter p = cels.filter p

section Others

variable {cels cels' : List CEL} {ev : StartingEvents}

lemma sameOthers_of_interleaving {malformed : List CEL} (h : Interleaving cels malformed cels')
    (hmalformed : ∀ cel ∈ malformed, MalformedMixmonitor x cel) : SameOthers cels cels' := by
  refine fun p hp => h.filter_eq_filter fun cel hcel => hp cel ?_
  rcases hmalformed cel hcel with ⟨htype, -⟩ | ⟨htype, -⟩
  · exact Or.inl htype
  · exact Or.inr htype

namespace SameOthers

/-- A test that asks for another type sees the same events. -/
lemma filter_eq (h : SameOthers cels cels') (p : CEL → Bool) (type : CELEventType)
    (hp : ∀ cel, p cel = true → cel.eventtype = type)
    (htype : type ≠ .mixmonitorStart ∧ type ≠ .mixmonitorStop) :
    cels'.filter p = cels.filter p := by
  refine h p fun cel hcel => Bool.eq_false_iff.2 fun hpcel => ?_
  have hsame := hp cel hpcel
  rcases hcel with hcel | hcel
  · exact htype.1 (hsame.symm.trans hcel)
  · exact htype.2 (hsame.symm.trans hcel)

lemma find?_eq (h : SameOthers cels cels') (p : CEL → Bool) (type : CELEventType)
    (hp : ∀ cel, p cel = true → cel.eventtype = type)
    (htype : type ≠ .mixmonitorStart ∧ type ≠ .mixmonitorStop) :
    cels'.find? p = cels.find? p := by
  rw [← List.head?_filter, ← List.head?_filter, h.filter_eq p type hp htype]

lemma firstOf_eq (h : SameOthers cels cels') (uniqueid : String) {type : CELEventType}
    (htype : type ≠ .mixmonitorStart ∧ type ≠ .mixmonitorStop) :
    firstOf cels' uniqueid type = firstOf cels uniqueid type :=
  h.find?_eq _ type (fun _ hcel => (of_decide_eq_true hcel).2) htype

lemma any_eq (h : SameOthers cels cels') {type : CELEventType}
    (htype : type ≠ .mixmonitorStart ∧ type ≠ .mixmonitorStop) :
    (cels'.any fun cel => cel.eventtype = type) = cels.any fun cel => cel.eventtype = type := by
  have hfilter := h.filter_eq (fun cel => cel.eventtype = type) type
    (fun _ hcel => of_decide_eq_true hcel) htype
  rw [Bool.eq_iff_iff, List.any_eq_true, List.any_eq_true]
  simp only [← List.mem_filter (p := fun cel : CEL => decide (cel.eventtype = type)), hfilter]

lemma startingEvents_eq (h : SameOthers cels cels') :
    startingEvents cels' = startingEvents cels := by
  have hstarts : DispatchCELInterpretor.chanStartUniqueids cels' =
      DispatchCELInterpretor.chanStartUniqueids cels :=
    congrArg (List.map fun cel : CEL => cel.uniqueid) (h.filter_eq _ .chanStart
      (fun _ hcel => of_decide_eq_true hcel) (by decide))
  unfold startingEvents
  rw [hstarts]
  split
  · rw [h.firstOf_eq _ (by decide), h.firstOf_eq _ (by decide), h.firstOf_eq _ (by decide),
      h.firstOf_eq _ (by decide)]
  · rfl

lemma setUserFieldAndVoicemail_eq (h : SameOthers cels cels') :
    setUserFieldAndVoicemail cels' ev call = setUserFieldAndVoicemail cels ev call := by
  have hfilter := h.filter_eq (fun cel => cel.eventtype = .appStart) .appStart
    (fun _ hcel => of_decide_eq_true hcel) (by decide)
  unfold setUserFieldAndVoicemail
  rw [h.firstOf_eq _ (by decide), hfilter]

lemma destinationChannel_eq (h : SameOthers cels cels') :
    destinationChannel cels' ev = destinationChannel cels ev := by
  unfold destinationChannel
  dsimp only
  rw [h.filter_eq (fun cel => ! [ev.localChannel1, ev.localChannel2,
    ev.sourceChannel].contains cel.uniqueid && cel.eventtype = .chanStart &&
      !isLocalChannel cel.channame) .chanStart (by simp +contextual) (by decide)]
  rw [h.filter_eq (fun cel => (List.map (fun cel : CEL => cel.uniqueid) (cels.filter fun cel =>
    ! [ev.localChannel1, ev.localChannel2, ev.sourceChannel].contains cel.uniqueid &&
      cel.eventtype = .chanStart && !isLocalChannel cel.channame)).contains cel.uniqueid &&
        cel.eventtype = .bridgeEnter) .bridgeEnter (by simp) (by decide)]

lemma setDestination_eq (h : SameOthers cels cels') :
    setDestination x cels' ev call = setDestination x cels ev call := by
  unfold setDestination
  rw [h.destinationChannel_eq]
  split
  · rfl
  · next uniqueid _ =>
    rw [h.firstOf_eq _ (by decide), h.filter_eq (fun cel => cel.uniqueid = uniqueid ∧
      cel.eventtype = .bridgeEnter) .bridgeEnter (by simp) (by decide)]

lemma setDirection_eq (h : SameOthers cels cels') :
    setDirection cels' call = setDirection cels call := by
  unfold setDirection
  rw [h.any_eq (by decide), h.any_eq (by decide)]

lemma setOriginateAllLines_eq (h : SameOthers cels cels') :
    setOriginateAllLines x cels' call = setOriginateAllLines x cels call := by
  unfold setOriginateAllLines
  rw [h.find?_eq (fun cel => cel.eventtype = .wazoOriginateAllLines) .wazoOriginateAllLines
    (fun _ hcel => of_decide_eq_true hcel) (by decide)]

end SameOthers

lemma SameOthers.afterRecordings_eq (h : SameOthers cels cels') :
    afterRecordings x cels' ev call = afterRecordings x cels ev call := by
  simp only [afterRecordings, h.setUserFieldAndVoicemail_eq, h.setDestination_eq,
    h.setDirection_eq, h.setOriginateAllLines_eq]

end Others

/-! ### The comparison -/

/-- Inserted events of which nothing is read are not reached, or the loop ends at the first
one: it is ignored, or it raises. -/
lemma readLoop_interleaving {β : Type} {read : CEL → Except PyError (Option β)}
    {cels malformed cels' : List CEL} (h : Interleaving cels malformed cels')
    (hnone : ∀ cel ∈ malformed, ∀ b, read cel ≠ .ok (some b)) :
    readLoop read cels' = readLoop read cels ∨
      (readLoop read cels').1 <+: (readLoop read cels).1 ∧ (readLoop read cels').2 = .ignored ∨
      (readLoop read cels').1 <+: (readLoop read cels).1 ∧
        ∃ e, (readLoop read cels').2 = .raised e := by
  induction h with
  | nil => exact Or.inl rfl
  | left cel _ ih =>
    simp only [readLoop]
    cases read cel with
    | error e => exact Or.inl rfl
    | ok found =>
      cases found with
      | none => exact Or.inl rfl
      | some b =>
        rcases ih hnone with heq | ⟨hpre, hend⟩ | ⟨hpre, hend⟩
        · exact Or.inl (by rw [heq])
        · exact Or.inr (Or.inl ⟨List.cons_prefix_cons.2 ⟨rfl, hpre⟩, hend⟩)
        · exact Or.inr (Or.inr ⟨List.cons_prefix_cons.2 ⟨rfl, hpre⟩, hend⟩)
  | right cel _ ih =>
    rw [readLoop]
    cases hread : read cel with
    | error e => exact Or.inr (Or.inr ⟨List.nil_prefix, e, rfl⟩)
    | ok found =>
      cases found with
      | none => exact Or.inr (Or.inl ⟨List.nil_prefix, rfl⟩)
      | some b => exact absurd hread (hnone cel List.mem_cons_self b)

section Compare

variable {cels malformed cels' : List CEL}

lemma starts_recordingEvents (cels : List CEL) :
    (recordingEvents x cels).starts = (readLoop (mixmonitorStart x) (startEvents cels)).1 := by
  unfold recordingEvents
  rcases readLoop (mixmonitorStart x) (startEvents cels) with ⟨starts, _ | _ | e⟩ <;> rfl

lemma startEvents_malformed (hmalformed : ∀ cel ∈ malformed, MalformedMixmonitor x cel) :
    ∀ cel ∈ startEvents malformed, ∀ start, mixmonitorStart x cel ≠ .ok (some start) := by
  intro cel hcel start
  obtain ⟨hmem, htype⟩ := List.mem_filter.1 hcel
  rcases hmalformed cel hmem with ⟨-, hlacks⟩ | ⟨htype', -⟩
  · rw [mixmonitorStart_eq hlacks]
    cases extractCelExtra x cel.extra <;> simp [Except.map]
  · cases htype'.symm.trans (of_decide_eq_true htype)

lemma stopEvents_malformed (hmalformed : ∀ cel ∈ malformed, MalformedMixmonitor x cel) :
    ∀ cel ∈ stopEvents malformed, ∀ stop, mixmonitorStop x cel ≠ .ok (some stop) := by
  intro cel hcel stop
  obtain ⟨hmem, htype⟩ := List.mem_filter.1 hcel
  rcases hmalformed cel hmem with ⟨htype', -⟩ | ⟨-, hlacks⟩
  · cases htype'.symm.trans (of_decide_eq_true htype)
  · rw [mixmonitorStop_eq hlacks]
    cases extractCelExtra x cel.extra <;> simp [Except.map]

lemma loopEnd_of_starts {loopEnd : LoopEnd} (hne : loopEnd ≠ .done)
    (h : (readLoop (mixmonitorStart x) (startEvents cels)).2 = loopEnd) :
    (recordingEvents x cels).loopEnd = loopEnd := by
  subst h
  unfold recordingEvents
  rcases hread : readLoop (mixmonitorStart x) (startEvents cels) with ⟨starts, _ | _ | e⟩
  · rw [hread] at hne
    exact absurd rfl hne
  · rfl
  · rfl

/-- The inserted events are not reached, or the loops end at the first one. -/
lemma recordingEvents_interleaving (h : Interleaving cels malformed cels')
    (hmalformed : ∀ cel ∈ malformed, MalformedMixmonitor x cel) :
    recordingEvents x cels' = recordingEvents x cels ∨
      (recordingEvents x cels').starts <+: (recordingEvents x cels).starts ∧
        (recordingEvents x cels').loopEnd = .ignored ∨
      ∃ e, (recordingEvents x cels').loopEnd = .raised e := by
  rw [starts_recordingEvents, starts_recordingEvents]
  rcases readLoop_interleaving (h.filter _) (startEvents_malformed hmalformed) with
    hsame | ⟨hpre, hend⟩ | ⟨-, e, hend⟩
  · change readLoop (mixmonitorStart x) (startEvents cels') =
      readLoop (mixmonitorStart x) (startEvents cels) at hsame
    unfold recordingEvents
    rw [hsame]
    rcases readLoop (mixmonitorStart x) (startEvents cels) with ⟨starts, _ | _ | e⟩
    · rcases readLoop_interleaving (h.filter _) (stopEvents_malformed hmalformed) with
        hsame' | ⟨-, hend'⟩ | ⟨-, hend'⟩
      · exact Or.inl (congrArg (fun p => RecordingEvents.mk starts p.1 p.2) hsame')
      · exact Or.inr (Or.inl ⟨List.prefix_rfl, hend'⟩)
      · exact Or.inr (Or.inr hend')
    · exact Or.inl rfl
    · exact Or.inl rfl
  · exact Or.inr (Or.inl ⟨hpre, loopEnd_of_starts (fun h => by cases h) hend⟩)
  · exact Or.inr (Or.inr ⟨e, loopEnd_of_starts (fun h => by cases h) hend⟩)

lemma exists_of_readLoop_done {β : Type} {read : CEL → Except PyError (Option β)}
    {cels : List CEL} (h : (readLoop read cels).2 = .done) (hcel : cel ∈ cels) :
    ∃ b, read cel = .ok (some b) := by
  induction cels with
  | nil => cases hcel
  | cons cel' cels ih =>
    rw [readLoop] at h
    cases hread : read cel' with
    | error e =>
      rw [hread] at h
      cases h
    | ok found =>
      cases found with
      | none =>
        rw [hread] at h
        cases h
      | some b =>
        rw [hread] at h
        rcases List.mem_cons.1 hcel with rfl | hcel
        · exact ⟨b, hread⟩
        · exact ih h hcel

/-- Loops that go to their end have read something of each event. -/
lemma eq_nil_of_done (h : Interleaving cels malformed cels')
    (hmalformed : ∀ cel ∈ malformed, MalformedMixmonitor x cel)
    (hdone : (recordingEvents x cels').loopEnd = .done) : malformed = [] := by
  have hends : (readLoop (mixmonitorStart x) (startEvents cels')).2 = .done ∧
      (readLoop (mixmonitorStop x) (stopEvents cels')).2 = .done := by
    unfold recordingEvents at hdone
    rcases hstarts : readLoop (mixmonitorStart x) (startEvents cels') with ⟨starts, _ | _ | e⟩
    · rw [hstarts] at hdone
      exact ⟨rfl, hdone⟩
    · rw [hstarts] at hdone
      cases hdone
    · rw [hstarts] at hdone
      cases hdone
  refine List.eq_nil_iff_forall_not_mem.2 fun cel hcel => ?_
  have hmem : cel ∈ cels' := h.mem_iff.2 (Or.inr hcel)
  rcases hmalformed cel hcel with ⟨htype, -⟩ | ⟨htype, -⟩
  · have hstart := decide_eq_true htype
    obtain ⟨start, hread⟩ := exists_of_readLoop_done hends.1 (List.mem_filter.2 ⟨hmem, hstart⟩)
    exact startEvents_malformed hmalformed cel (List.mem_filter.2 ⟨hcel, hstart⟩) start hread
  · have hstop := decide_eq_true htype
    obtain ⟨stop, hread⟩ := exists_of_readLoop_done hends.2 (List.mem_filter.2 ⟨hmem, hstop⟩)
    exact stopEvents_malformed hmalformed cel (List.mem_filter.2 ⟨hcel, hstop⟩) stop hread

/-- The same recordings are started, and each was last stopped at the same time. -/
structure SameStops (events events' : RecordingEvents) : Prop where
  starts_eq : events'.starts = events.starts
  stopTime_eq : ∀ start ∈ events.starts,
    stopTime events'.stops start.2.2 = stopTime events.stops start.2.2

lemma stoppedAt_inj {start : CEL × Json × Json} {t t' : Option DateTime}
    (h : stoppedAt (newRecording start) t = stoppedAt (newRecording start) t') : t = t' := by
  have hend : ∀ t, (stoppedAt (newRecording start) t).endTime = t := by
    intro t
    cases t <;> rfl
  calc t = (stoppedAt (newRecording start) t).endTime := (hend t).symm
    _ = (stoppedAt (newRecording start) t').endTime := congrArg Recording.endTime h
    _ = t' := hend t'

lemma recordings_eq_iff {events events' : RecordingEvents}
    (hpre : events'.starts <+: events.starts) :
    events'.recordings = events.recordings ↔ SameStops events events' := by
  unfold RecordingEvents.recordings
  constructor
  · intro h
    have hlength := congrArg List.length h
    rw [List.length_map, List.length_map] at hlength
    have hstarts := hpre.eq_of_length hlength
    rw [hstarts, List.map_inj_left] at h
    exact ⟨hstarts, fun start hstart => stoppedAt_inj (h start hstart)⟩
  · rintro ⟨hstarts, hstops⟩
    rw [hstarts]
    exact List.map_congr_left fun start hstart => by rw [hstops start hstart]

/-- A recording that was stopped, or ended with its call. -/
def endedAt (dateEnd : DateTime) (recording : Recording) : Option DateTime → Recording
  | some t => stoppedAt recording (some t)
  | none => { recording with endTime := some dateEnd }

lemma endedAt_eq_stoppedAt {start : CEL × Json × Json} {dateEnd : DateTime}
    {t t' : Option DateTime}
    (h : endedAt dateEnd (newRecording start) t = stoppedAt (newRecording start) t') :
    t' = t ∧ t ≠ none := by
  cases t with
  | none =>
    -- the end of the call is not final
    have hend := congrArg (fun r : Recording => (r.endTime, r.endTimeIsFinal)) h
    cases t' <;> simp [endedAt, stoppedAt, newRecording] at hend
  | some t => exact ⟨(stoppedAt_inj (t := some t) h).symm, Option.some_ne_none t⟩

/-- The end of the call ends no recording if and only if all were stopped. -/
lemma endRecordings_eq_iff {events events' : RecordingEvents}
    (hpre : events'.starts <+: events.starts) (dateEnd : DateTime) :
    endRecordings (some dateEnd) events.recordings = events'.recordings ↔
      SameStops events events' ∧
        ∀ start ∈ events.starts, stopTime events.stops start.2.2 ≠ none := by
  have hended : endRecordings (some dateEnd) events.recordings = events.starts.map fun start =>
      endedAt dateEnd (newRecording start) (stopTime events.stops start.2.2) := by
    rw [endRecordings, RecordingEvents.recordings, List.map_map]
    refine List.map_congr_left fun start _ => ?_
    cases hstop : stopTime events.stops start.2.2 with
    | none => simp [hstop, stoppedAt, endedAt, newRecording]
    | some t => simp [hstop, stoppedAt, endedAt]
  rw [hended, RecordingEvents.recordings]
  constructor
  · intro h
    have hlength := congrArg List.length h
    rw [List.length_map, List.length_map] at hlength
    have hstarts := hpre.eq_of_length hlength.symm
    rw [hstarts, List.map_inj_left] at h
    have hstop := fun start hstart => endedAt_eq_stoppedAt (h start hstart)
    exact ⟨⟨hstarts, fun start hstart => (hstop start hstart).1⟩,
      fun start hstart => (hstop start hstart).2⟩
  · rintro ⟨⟨hstarts, hstops⟩, hstopped⟩
    rw [hstarts]
    refine List.map_congr_left fun start hstart => ?_
    rw [hstops start hstart]
    obtain ⟨t, hstop⟩ := Option.ne_none_iff_exists'.1 (hstopped start hstart)
    rw [hstop]
    rfl

/-- The cases in which inserted events make no difference. -/
inductive Unharmed (x : Externals) (cels malformed cels' : List CEL) : Prop
  | nothingInserted (h : malformed = [])
  /-- The starting events are missing, and nothing is interpreted. -/
  | notInterpreted (hev : startingEvents cels = none)
  /-- The loops end at an event that raises, and nothing is returned without the inserted events
  either. -/
  | raised (ev : StartingEvents) (e : PyError) (hev : startingEvents cels = some ev)
      (hend' : (recordingEvents x cels').loopEnd = .raised e) (hraises : Raises x cels ev)
  /-- The loops reach an ignored event anyway, and the events in between change nothing. -/
  | ignored (hend' : (recordingEvents x cels').loopEnd = .ignored)
      (hend : (recordingEvents x cels).loopEnd = .ignored)
      (hsame : SameStops (recordingEvents x cels) (recordingEvents x cels'))
  /-- All the recordings were stopped before, and nothing is left to do after them. -/
  | nothingLeft (ev : StartingEvents) (hev : startingEvents cels = some ev)
      (hend' : (recordingEvents x cels').loopEnd = .ignored)
      (hend : (recordingEvents x cels).loopEnd = .done)
      (hsame : SameStops (recordingEvents x cels) (recordingEvents x cels'))
      (hstopped : ∀ start ∈ (recordingEvents x cels).starts,
        stopTime (recordingEvents x cels).stops start.2.2 ≠ none)
      (hleft : NothingLeft x cels ev)

section Cases

variable {ev : StartingEvents}

/-- The cases that are left when the loops reach an ignored event. -/
lemma unharmed_iff_of_ignored (hinserted : malformed ≠ []) (hev : startingEvents cels = some ev)
    (hend' : (recordingEvents x cels').loopEnd = .ignored) :
    Unharmed x cels malformed cels' ↔
      (recordingEvents x cels).loopEnd = .ignored ∧
        SameStops (recordingEvents x cels) (recordingEvents x cels') ∨
      (recordingEvents x cels).loopEnd = .done ∧
        SameStops (recordingEvents x cels) (recordingEvents x cels') ∧
        (∀ start ∈ (recordingEvents x cels).starts,
          stopTime (recordingEvents x cels).stops start.2.2 ≠ none) ∧
        NothingLeft x cels ev := by
  constructor
  · rintro (hnil | hnone | ⟨-, e, -, he, -⟩ | ⟨-, hend, hsame⟩ |
      ⟨ev', hev', -, hend, hsame, hstopped, hleft⟩)
    · exact absurd hnil hinserted
    · cases hev.symm.trans hnone
    · cases hend'.symm.trans he
    · exact Or.inl ⟨hend, hsame⟩
    · obtain rfl := Option.some.inj (hev.symm.trans hev')
      exact Or.inr ⟨hend, hsame, hstopped, hleft⟩
  · rintro (⟨hend, hsame⟩ | ⟨hend, hsame, hstopped, hleft⟩)
    · exact .ignored hend' hend hsame
    · exact .nothingLeft ev hev hend' hend hsame hstopped hleft

/-- The case that is left when the loops reach an event that raises. -/
lemma unharmed_iff_of_raised {e : PyError} (hinserted : malformed ≠ [])
    (hev : startingEvents cels = some ev)
    (hend' : (recordingEvents x cels').loopEnd = .raised e) :
    Unharmed x cels malformed cels' ↔ Raises x cels ev := by
  constructor
  · rintro (hnil | hnone | ⟨ev', -, hev', -, hraises⟩ | ⟨hignored, -, -⟩ |
      ⟨-, -, hignored, -, -, -, -⟩)
    · exact absurd hnil hinserted
    · cases hev.symm.trans hnone
    · obtain rfl := Option.some.inj (hev.symm.trans hev')
      exact hraises
    · cases hend'.symm.trans hignored
    · cases hend'.symm.trans hignored
  · exact fun hraises => .raised ev e hev hend' hraises

/-- The loops reach an inserted event that is ignored. -/
lemma toOption_eq_iff_of_ignored (h : Interleaving cels malformed cels')
    (hmalformed : ∀ cel ∈ malformed, MalformedMixmonitor x cel) (hfresh : Fresh call)
    (hinserted : malformed ≠ []) (hev : startingEvents cels = some ev)
    (hpre : (recordingEvents x cels').starts <+: (recordingEvents x cels).starts)
    (hend' : (recordingEvents x cels').loopEnd = .ignored) :
    (interpretCels x cels' call).toOption = (interpretCels x cels call).toOption ↔
      Unharmed x cels malformed cels' := by
  have hothers := sameOthers_of_interleaving h hmalformed
  have hleave : interpretCels x cels' call = .ok { setSource x ev call with
      recordings := (recordingEvents x cels').recordings } := by
    rw [interpretCels_eq cels' hfresh.recordings, hothers.startingEvents_eq, hev]
    dsimp only
    rw [hend']
  rw [hleave, eq_comm, Except.toOption, toOption_eq_some_iff,
    interpretCels_eq cels hfresh.recordings, hev, unharmed_iff_of_ignored hinserted hev hend']
  dsimp only
  cases hend : (recordingEvents x cels).loopEnd with
  | done =>
    -- the other run goes on, and must have nothing to do
    dsimp only
    rw [afterSource_eq_iff hfresh, endRecordings_eq_iff hpre]
    simp [and_assoc]
  | ignored =>
    -- both runs stop there, with the recordings they read
    dsimp only
    constructor
    · intro heq
      have hrecordings := congrArg RawCallLog.recordings (Except.ok.inj heq)
      exact Or.inl ⟨rfl, (recordings_eq_iff hpre).1 hrecordings.symm⟩
    · rintro (⟨-, hsame⟩ | ⟨hdone, -⟩)
      · rw [(recordings_eq_iff hpre).2 hsame]
      · cases hdone
  | raised e =>
    -- only the other run raises
    exact iff_of_false (fun heq => by cases heq) (by simp)

/-- The loops reach an inserted event that raises. -/
lemma toOption_eq_iff_of_raised {e : PyError} (h : Interleaving cels malformed cels')
    (hmalformed : ∀ cel ∈ malformed, MalformedMixmonitor x cel) (hfresh : Fresh call)
    (hinserted : malformed ≠ []) (hev : startingEvents cels = some ev)
    (hend' : (recordingEvents x cels').loopEnd = .raised e) :
    (interpretCels x cels' call).toOption = (interpretCels x cels call).toOption ↔
      Unharmed x cels malformed cels' := by
  have hothers := sameOthers_of_interleaving h hmalformed
  have hraised : interpretCels x cels' call = .error e := by
    rw [interpretCels_eq cels' hfresh.recordings, hothers.startingEvents_eq, hev]
    dsimp only
    rw [hend']
  rw [hraised, eq_comm, Except.toOption, toOption_eq_none_iff,
    completes_interpretCels hfresh.recordings hev, not_not,
    unharmed_iff_of_raised hinserted hev hend']

end Cases

/-- Malformed mixmonitor events make no difference to what is returned for an originated call
if and only if one of the cases above applies. -/
theorem interpretCels_malformed_iff (x : Externals) (call : RawCallLog)
    (h : Interleaving cels malformed cels')
    (hmalformed : ∀ cel ∈ malformed, MalformedMixmonitor x cel) (hfresh : Fresh call) :
    (interpretCels x cels' call).toOption = (interpretCels x cels call).toOption ↔
      Unharmed x cels malformed cels' := by
  by_cases hinserted : malformed = []
  · subst hinserted
    rw [h.eq_of_nil]
    exact iff_of_true rfl (.nothingInserted rfl)
  have hothers := sameOthers_of_interleaving h hmalformed
  cases hev : startingEvents cels with
  | none =>
    rw [interpretCels_eq cels' hfresh.recordings, interpretCels_eq cels hfresh.recordings,
      hothers.startingEvents_eq, hev]
    exact iff_of_true rfl (.notInterpreted hev)
  | some ev =>
    rcases recordingEvents_interleaving h hmalformed with heq | ⟨hpre, hend'⟩ | ⟨e, hend'⟩
    · rw [interpretCels_eq cels' hfresh.recordings, interpretCels_eq cels hfresh.recordings,
        hothers.startingEvents_eq, hev, heq]
      refine iff_of_true (by simp only [hothers.afterRecordings_eq]) ?_
      cases hend : (recordingEvents x cels).loopEnd with
      | done => exact absurd (eq_nil_of_done h hmalformed (heq ▸ hend)) hinserted
      | ignored => exact .ignored (heq ▸ hend) hend ⟨congrArg _ heq, fun _ _ => by rw [heq]⟩
      | raised e => exact .raised ev e hev (heq ▸ hend) (Or.inl ⟨e, hend⟩)
    · exact toOption_eq_iff_of_ignored h hmalformed hfresh hinserted hev hpre hend'
    · exact toOption_eq_iff_of_raised h hmalformed hfresh hinserted hev hend'

end Compare

/-- A call that Alice originates, with what happens before she hangs up. -/
def originatedCall (middle : List CEL) : List CEL :=
  [plainEvent 1 "1.1" "Local/1002@default-00000001;1" .chanStart,
   plainEvent 2 "1.2" "Local/1002@default-00000001;2" .chanStart,
   plainEvent 3 "1.1" "Local/1002@default-00000001;1" .answer,
   plainEvent 4 "1.3" "PJSIP/alice-00000001" .chanStart,
   plainEvent 5 "1.3" "PJSIP/alice-00000001" .answer,
   plainEvent 6 "1.2" "Local/1002@default-00000001;2" .answer] ++
  middle ++ [plainEvent 11 "1.3" "PJSIP/alice-00000001" .chanEnd]

def answeredByBob : List CEL :=
  [plainEvent 7 "1.4" "PJSIP/bob-00000002" .chanStart,
   plainEvent 8 "1.4" "PJSIP/bob-00000002" .answer,
   plainEvent 9 "1.4" "PJSIP/bob-00000002" .bridgeEnter]

/-- A recording starts, and its event has no payload. -/
def startWithoutExtra : CEL := plainEvent 10 "1.3" "PJSIP/alice-00000001" .mixmonitorStart

lemma malformed_startWithoutExtra :
    ∀ cel ∈ [startWithoutExtra], MalformedMixmonitor .ascii cel := by
  intro cel hcel
  obtain rfl := List.mem_singleton.1 hcel
  refine .start rfl fun extra hextra => ?_
  obtain rfl := Except.ok.inj hextra
  exact Or.inl rfl

lemma interleaving_originatedCall (middle : List CEL) :
    Interleaving (originatedCall middle) [startWithoutExtra]
      (originatedCall (middle ++ [startWithoutExtra])) := by
  have hmiddle : ∀ l : List CEL, Interleaving (l ++ [plainEvent 11 "1.3" "PJSIP/alice-00000001"
      .chanEnd]) [startWithoutExtra] ((l ++ [startWithoutExtra]) ++
        [plainEvent 11 "1.3" "PJSIP/alice-00000001" .chanEnd]) := by
    intro l
    induction l with
    | nil => exact .right _ (.left _ .nil)
    | cons cel l ih => exact .left cel ih
  rw [originatedCall, originatedCall, List.append_assoc, List.append_assoc]
  exact .left _ (.left _ (.left _ (.left _ (.left _ (.left _ (hmiddle middle))))))

/-- Nobody was called yet, and the event makes no difference. -/
theorem interpretCels_malformed_unanswered :
    (interpretCels .ascii (originatedCall [startWithoutExtra]) {}).toOption =
      (interpretCels .ascii (originatedCall []) {}).toOption :=
  (interpretCels_malformed_iff .ascii {} (interleaving_originatedCall [])
    malformed_startWithoutExtra ⟨⟨rfl, rfl, rfl, rfl, rfl⟩, rfl⟩).2
    (.nothingLeft _ rfl rfl rfl ⟨rfl, fun _ h => absurd h List.not_mem_nil⟩ (by decide)
      ⟨rfl, by decide, Or.inr ⟨rfl, by decide, fun _ h => by cases h⟩⟩)

/-- The answer of Bob is lost. -/
theorem interpretCels_malformed_answered :
    Interleaving (originatedCall answeredByBob) [startWithoutExtra]
        (originatedCall (answeredByBob ++ [startWithoutExtra])) ∧
      (∀ cel ∈ [startWithoutExtra], MalformedMixmonitor .ascii cel) ∧ Fresh {} ∧
      (interpretCels .ascii (originatedCall answeredByBob) {}).map (·.dateAnswer) =
        .ok (some 9) ∧
      (interpretCels .ascii (originatedCall (answeredByBob ++ [startWithoutExtra])) {}).map
        (·.dateAnswer) = .ok none ∧
      (interpretCels .ascii (originatedCall (answeredByBob ++ [startWithoutExtra])) {}).toOption ≠
        (interpretCels .ascii (originatedCall answeredByBob) {}).toOption := by
  have hanswered : (interpretCels .ascii (originatedCall answeredByBob) {}).map (·.dateAnswer) =
      .ok (some 9) := by decide +kernel
  have hlost : (interpretCels .ascii (originatedCall (answeredByBob ++ [startWithoutExtra]))
      {}).map (·.dateAnswer) = .ok none := by decide +kernel
  refine ⟨interleaving_originatedCall answeredByBob, malformed_startWithoutExtra,
    ⟨⟨rfl, rfl, rfl, rfl, rfl⟩, rfl⟩, hanswered, hlost, fun heq => ?_⟩
  obtain ⟨lost, hrun, hlostDate⟩ := exists_of_map_eq_ok hlost
  obtain ⟨answered, hrun', hanswerDate⟩ := exists_of_map_eq_ok hanswered
  rw [hrun, hrun'] at heq
  obtain rfl := Option.some.inj heq
  cases hlostDate.symm.trans hanswerDate

end LocalOriginateCELInterpretor

end CallLogd
