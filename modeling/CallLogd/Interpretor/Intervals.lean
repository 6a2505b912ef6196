/-
When the recordings end.

A segment ends at the last stop that is applied to it.  The stops with its
identifier that the handlers do not tell from its own one, because a later
recording has the same identifier, also move its end.
-/
import CallLogd.Interpretor.Segments

namespace CallLogd

/-- The stops with an identifier, from a time on. -/
def laterStops (x : Externals) (cels : List CEL) (mixmonitorId : Json) (start : DateTime) :
    List DateTime :=
  (stopTimes x mixmonitorId cels).filter (start ≤ ·)

/-- A recording ends at the first stop with its identifier from its start on, and
at a channel end from its start on if there is none. -/
def EndsInTime (x : Externals) (cels : List CEL) (recording : Recording) : Prop :=
  ∃ start ∈ recording.startTime,
    (∀ t ∈ (laterStops x cels recording.mixmonitorId start).head?, recording.endTime = some t) ∧
    (laterStops x cels recording.mixmonitorId start = [] →
      ∃ cel ∈ cels, cel.eventtype = .chanEnd ∧ start ≤ cel.eventtime ∧
        recording.endTime = some cel.eventtime)

instance (x : Externals) (cels : List CEL) (recording : Recording) :
    Decidable (EndsInTime x cels recording) :=
  inferInstanceAs (Decidable (∃ start ∈ recording.startTime, _ ∧ (_ → _)))

/-- The last stop that is applied to a segment is the first one with its
identifier from its start on.  If there is none, no stop is applied to it, and a
channel end from its start on is. -/
def Segment.StoppedInTime (x : Externals) (cels : List CEL) (segment : Segment) : Prop :=
  (∀ t ∈ (laterStops x cels segment.mixmonitorId segment.start).head?,
    segment.stops.getLast? = some t ∨ segment.stops = [] ∧ segment.ends.max? = some t) ∧
  (laterStops x cels segment.mixmonitorId segment.start = [] →
    segment.stops = [] ∧ ∃ t ∈ segment.ends, segment.start ≤ t)

variable {x : Externals} {cels : List CEL} {segment : Segment} {recording : Recording}

/-- A recording that ends in time does not end before it starts. -/
lemma EndsInTime.le (h : EndsInTime x cels recording) :
    ∃ start ∈ recording.startTime, ∃ t ∈ recording.endTime, start ≤ t := by
  obtain ⟨start, hstart, hstopped, hended⟩ := h
  refine ⟨start, hstart, ?_⟩
  cases hstops : laterStops x cels recording.mixmonitorId start with
  | nil =>
      obtain ⟨cel, -, -, hle, hend⟩ := hended hstops
      exact ⟨_, hend, hle⟩
  | cons t stops =>
      have hmem : t ∈ laterStops x cels recording.mixmonitorId start := by simp [hstops]
      exact ⟨t, hstopped t (by simp [hstops]), of_decide_eq_true (List.mem_filter.1 hmem).2⟩

/-! ### The events that are applied to a segment are those of the call -/

/-- The stops and the channel ends of a segment are events of the call. -/
structure Segment.DrawnFrom (x : Externals) (cels : List CEL) (segment : Segment) : Prop where
  stops : ∀ t ∈ segment.stops, t ∈ stopTimes x segment.mixmonitorId cels
  ends : ∀ t ∈ segment.ends, t ∈ endTimes cels

lemma stopTimes_subset {cels' : List CEL} (h : cels' ⊆ cels) (id : Json) :
    stopTimes x id cels' ⊆ stopTimes x id cels := by
  intro t ht
  obtain ⟨cel, hcel, heq⟩ := List.mem_filterMap.1 ht
  exact List.mem_filterMap.2 ⟨cel, h hcel, heq⟩

lemma mem_endTimes {t : DateTime} :
    t ∈ endTimes cels ↔ ∃ cel ∈ cels, cel.eventtype = .chanEnd ∧ cel.eventtime = t := by
  simp [endTimes, and_assoc]

lemma endTimes_subset {cels' : List CEL} (h : cels' ⊆ cels) : endTimes cels' ⊆ endTimes cels := by
  intro t ht
  obtain ⟨cel, hcel, heq⟩ := mem_endTimes.1 ht
  exact mem_endTimes.2 ⟨cel, h hcel, heq⟩

lemma drawnFrom_callerSegments {calleeCels : List CEL} (hcallee : calleeCels ⊆ cels) {n : ℕ}
    {callerCels : List CEL} (hcaller : callerCels ⊆ cels)
    (h : segment ∈ callerSegments x calleeCels n callerCels) : segment.DrawnFrom x cels := by
  obtain ⟨cel, later, path, mixmonitorId, hsuffix, -, k, -, rfl⟩ := exists_of_mem_callerSegments h
  have hlater : later ⊆ cels := fun c hc =>
    hcaller (hsuffix.subset (List.mem_cons_of_mem cel hc))
  constructor
  · intro t ht
    rcases List.mem_append.1 ht with ht | ht
    · exact stopTimes_subset hlater _ ht
    · exact stopTimes_subset hcallee _ ht
  · intro t ht
    rcases List.mem_append.1 ht with ht | ht
    · exact endTimes_subset hlater (List.mem_of_mem_take ht)
    · exact endTimes_subset hcallee ht

lemma drawnFrom_calleeSegments {calleeCels : List CEL} (hcallee : calleeCels ⊆ cels)
    (h : segment ∈ calleeSegments x calleeCels) : segment.DrawnFrom x cels := by
  obtain ⟨cel, later, path, mixmonitorId, hsuffix, -, rfl⟩ := exists_of_mem_calleeSegments h
  have hlater : later ⊆ cels := fun c hc =>
    hcallee (hsuffix.subset (List.mem_cons_of_mem cel hc))
  exact ⟨stopTimes_subset hlater _, endTimes_subset hlater⟩

lemma localStops_subset : localStops x cels ⊆ cels := by
  rw [localStops]
  split
  · exact fun cel hcel =>
      List.mem_of_mem_filter ((List.takeWhile_sublist _).subset hcel)
  · exact List.nil_subset _

lemma sourceChannelEnd_mem {ev : LocalOriginateCELInterpretor.StartingEvents}
    (h : LocalOriginateCELInterpretor.startingEvents cels = some ev) :
    ev.sourceChannelEnd.eventtime ∈ endTimes cels := by
  rw [LocalOriginateCELInterpretor.startingEvents] at h
  split at h
  · simp only [Option.bind_eq_bind, Option.bind_eq_some_iff, Option.some.injEq] at h
    obtain ⟨_, -, _, -, sourceChannelEnd, hend, _, -, rfl⟩ := h
    have htype : sourceChannelEnd.eventtype = .chanEnd := by
      have hfound := List.find?_some hend
      simp_all
    exact mem_endTimes.2 ⟨sourceChannelEnd, List.mem_of_find?_eq_some hend, htype, rfl⟩
  · cases h

lemma drawnFrom_localSegments (h : segment ∈ localSegments x cels) : segment.DrawnFrom x cels := by
  rw [localSegments] at h
  split at h
  · cases h
  · next ev hev =>
      obtain ⟨cel, -, hsegment⟩ := List.mem_filterMap.1 h
      obtain ⟨start, -, rfl⟩ := Option.map_eq_some_iff.1 hsegment
      refine ⟨stopTimes_subset localStops_subset _, ?_⟩
      dsimp only
      split
      · simpa using sourceChannelEnd_mem hev
      · simp

lemma drawnFrom_segments {interpretor : CELInterpretor}
    (h : segment ∈ interpretor.segments x cels) : segment.DrawnFrom x cels := by
  cases interpretor with
  | localOriginate => exact drawnFrom_localSegments h
  | dispatch =>
      rcases List.mem_append.1 h with h | h
      · exact drawnFrom_callerSegments (fun _ => List.mem_of_mem_filter)
          (fun _ => List.mem_of_mem_filter) h
      · exact drawnFrom_calleeSegments (fun _ => List.mem_of_mem_filter) h

/-! ### The ends of the recordings -/

/-- A recording ends in time if and only if its segment is stopped in time. -/
lemma endsInTime_recording_iff (h : segment.DrawnFrom x cels) :
    EndsInTime x cels segment.recording ↔ segment.StoppedInTime x cels := by
  have hend : ∀ t, segment.recording.endTime = some t ↔
      segment.stops.getLast? = some t ∨ segment.stops = [] ∧ segment.ends.max? = some t := by
    intro t
    rw [Segment.recording, Option.or_eq_some_iff, List.getLast?_eq_none_iff]
  have hstart : EndsInTime x cels segment.recording ↔
      (∀ t ∈ (laterStops x cels segment.mixmonitorId segment.start).head?,
        segment.recording.endTime = some t) ∧
      (laterStops x cels segment.mixmonitorId segment.start = [] →
        ∃ cel ∈ cels, cel.eventtype = .chanEnd ∧ segment.start ≤ cel.eventtime ∧
          segment.recording.endTime = some cel.eventtime) := by
    simp only [EndsInTime, Segment.recording, Option.mem_def, Option.some.injEq, exists_eq_left']
  rw [hstart, Segment.StoppedInTime]
  refine and_congr (forall₂_congr fun t _ => hend t) (imp_congr_right fun hnone => ?_)
  constructor
  · rintro ⟨cel, hcel, htype, hle, hlast⟩
    rcases (hend _).1 hlast with hstop | ⟨hstops, hmax⟩
    · -- the stop would be one from the start on
      have hmem := h.stops _ (List.mem_of_getLast? hstop)
      have hlater : cel.eventtime ∈ laterStops x cels segment.mixmonitorId segment.start :=
        List.mem_filter.2 ⟨hmem, decide_eq_true hle⟩
      rw [hnone] at hlater
      cases hlater
    · exact ⟨hstops, _, List.max?_mem hmax, hle⟩
  · rintro ⟨hstops, t, ht, hle⟩
    obtain ⟨m, hmax⟩ := Option.isSome_iff_exists.1 (List.isSome_max?_of_mem ht)
    obtain ⟨cel, hcel, htype, rfl⟩ := mem_endTimes.1 (h.ends m (List.max?_mem hmax))
    refine ⟨cel, hcel, htype, hle.trans ?_, (hend _).2 (.inr ⟨hstops, hmax⟩)⟩
    exact (List.max?_le_iff hmax).1 le_rfl t ht

/-- The recordings of a call end in time if and only if its segments are stopped
in time. -/
theorem endsInTime_iff {interpretor : CELInterpretor} {call call' : RawCallLog}
    (hcall : call.recordings = []) (h : interpretor.interpretCels x cels call = .ok call') :
    (∀ recording ∈ call'.recordings, EndsInTime x cels recording) ↔
      ∀ segment ∈ interpretor.segments x cels, segment.StoppedInTime x cels := by
  rw [interpretor.recordings_interpretCels cels hcall call' h]
  simp only [List.mem_map, forall_exists_index, and_imp, forall_apply_eq_imp_iff₂]
  exact forall₂_congr fun segment hsegment =>
    endsInTime_recording_iff (drawnFrom_segments hsegment)

/-! ### A call with two recordings -/

/-- A MIXMONITOR_START. -/
def startEvent (id : ℕ) (uniqueid mixmonitorId filename : String) : CEL where
  id := id
  eventtype := .mixmonitorStart
  eventtime := id
  uniqueid := uniqueid
  linkedid := "1.1"
  extra := some ("\x7b\"mixmonitor_id\": \"" ++ mixmonitorId ++
    "\", \"filename\": \"" ++ filename ++
    "\"\x7d")

/-- A MIXMONITOR_STOP. -/
def stopEvent (id : ℕ) (uniqueid mixmonitorId : String) : CEL where
  id := id
  eventtype := .mixmonitorStop
  eventtime := id
  uniqueid := uniqueid
  linkedid := "1.1"
  extra := some ("\x7b\"mixmonitor_id\": \"" ++ mixmonitorId ++ "\"\x7d")

/-- An event without payload. -/
def plainEvent (id : ℕ) (uniqueid channame : String) (eventtype : CELEventType) : CEL where
  id := id
  eventtype := eventtype
  eventtime := id
  cidNum := "1001"
  channame := channame
  uniqueid := uniqueid
  linkedid := "1.1"

/-- The second recording of the call has the identifier of the first one. -/
def reusedIdentifier : List CEL :=
  [plainEvent 1 "1.1" "PJSIP/alice-00000001" .chanStart,
   startEvent 2 "1.1" "0x7f" "/tmp/a.wav", stopEvent 3 "1.1" "0x7f",
   startEvent 4 "1.1" "0x7f" "/tmp/b.wav", stopEvent 5 "1.1" "0x7f",
   plainEvent 6 "1.1" "PJSIP/alice-00000001" .chanEnd,
   plainEvent 7 "1.1" "PJSIP/alice-00000001" .linkedidEnd]

/-- The call of these events. -/
def reusedIdentifierCall : RawCallLog :=
  ((CELInterpretor.dispatch.interpretCels .ascii reusedIdentifier {}).toOption).getD {}

lemma interpretCels_reusedIdentifier :
    CELInterpretor.dispatch.interpretCels .ascii reusedIdentifier {} =
      .ok reusedIdentifierCall := by
  decide +kernel

/-- The ends of the recordings of these events. -/
theorem endsInTime_reusedIdentifier_iff :
    (∀ recording ∈ reusedIdentifierCall.recordings,
        EndsInTime .ascii reusedIdentifier recording) ↔
      ∀ segment ∈ CELInterpretor.dispatch.segments .ascii reusedIdentifier,
        segment.StoppedInTime .ascii reusedIdentifier :=
  endsInTime_iff rfl interpretCels_reusedIdentifier

/-- The first recording ends with the second one. -/
theorem reusedIdentifier_not_endsInTime :
    reusedIdentifier.Pairwise (fun cel cel' => cel.eventtime ≤ cel'.eventtime) ∧
      CELInterpretor.dispatch.interpretCels .ascii reusedIdentifier {} =
        .ok reusedIdentifierCall ∧
      ¬ ∀ recording ∈ reusedIdentifierCall.recordings,
        EndsInTime .ascii reusedIdentifier recording :=
  ⟨by decide, interpretCels_reusedIdentifier, by decide +kernel⟩

end CallLogd
