/-
The dates of a call.

The dates of a dispatched call are those of events of one channel, which come in order.
An originated call starts and ends with other channels than the one that is answered, and
the last bridge of that one can come after the end.
-/
import CallLogd.Generator
import CallLogd.Interpretor.Marks
import CallLogd.Interpretor.Intervals

namespace CallLogd

open Results

/-! ### Events in order -/

/-- An event can come before another one: a channel begins with its CHAN_START, and only a
HANGUP or a LINKEDID_END follows its CHAN_END. -/
structure CEL.Before (a b : CEL) : Prop where
  time : a.eventtime ≤ b.eventtime
  start : b.eventtype = .chanStart → a.uniqueid ≠ b.uniqueid
  stop : a.eventtype = .chanEnd → a.uniqueid = b.uniqueid →
    b.eventtype = .hangup ∨ b.eventtype = .linkedidEnd

instance (a b : CEL) : Decidable (a.Before b) :=
  decidable_of_iff (a.eventtime ≤ b.eventtime ∧
      (b.eventtype = .chanStart → a.uniqueid ≠ b.uniqueid) ∧
      (a.eventtype = .chanEnd → a.uniqueid = b.uniqueid →
        b.eventtype = .hangup ∨ b.eventtype = .linkedidEnd))
    ⟨fun h => ⟨h.1, h.2.1, h.2.2⟩, fun h => ⟨h.time, h.start, h.stop⟩⟩

/-- The CELs are sorted by time, and those of each channel are in order. -/
def ChannelsInOrder (cels : List CEL) : Prop := cels.Pairwise CEL.Before

instance (cels : List CEL) : Decidable (ChannelsInOrder cels) :=
  inferInstanceAs (Decidable (cels.Pairwise CEL.Before))

namespace ChannelsInOrder

variable {cels : List CEL} {a b : CEL}

lemma before_or (h : ChannelsInOrder cels) (ha : a ∈ cels) (hb : b ∈ cels) (hab : a ≠ b) :
    a.Before b ∨ b.Before a := by
  have heither : cels.Pairwise fun a b => a.Before b ∨ b.Before a := h.imp Or.inl
  have : Std.Symm fun a b : CEL => a.Before b ∨ b.Before a := ⟨fun _ _ => Or.symm⟩
  exact heither.forall ha hb hab

/-- A channel starts first. -/
lemma start_le (h : ChannelsInOrder cels) (ha : a ∈ cels) (hb : b ∈ cels)
    (hstart : a.eventtype = .chanStart) (hchannel : a.uniqueid = b.uniqueid) :
    a.eventtime ≤ b.eventtime := by
  by_cases hab : a = b
  · rw [hab]
  · rcases h.before_or ha hb hab with hbefore | hbefore
    · exact hbefore.time
    · exact absurd hchannel.symm (hbefore.start hstart)

/-- A channel does not enter a bridge after its end. -/
lemma bridge_le (h : ChannelsInOrder cels) (ha : a ∈ cels) (hb : b ∈ cels)
    (hbridge : a.eventtype = .bridgeStart ∨ a.eventtype = .bridgeEnter)
    (hend : b.eventtype = .chanEnd) (hchannel : a.uniqueid = b.uniqueid) :
    a.eventtime ≤ b.eventtime := by
  have hab : a ≠ b := by
    rintro rfl
    rcases hbridge with hbridge | hbridge <;> simp [hbridge] at hend
  rcases h.before_or ha hb hab with hbefore | hbefore
  · exact hbefore.time
  · have hstop := hbefore.stop hend hchannel.symm
    rcases hbridge with hbridge | hbridge <;> simp [hbridge] at hstop

end ChannelsInOrder

/-! ### Dates -/

/-- The dates are in order where they are set, so that no duration is negative. -/
structure RawCallLog.Chronological (call : RawCallLog) : Prop where
  date_le_answer : ∀ date ∈ call.date, ∀ answer ∈ call.dateAnswer, date ≤ answer
  answer_le_end : ∀ answer ∈ call.dateAnswer, ∀ stop ∈ call.dateEnd, answer ≤ stop
  date_le_end : ∀ date ∈ call.date, ∀ stop ∈ call.dateEnd, date ≤ stop

/-- The dates of the marks. -/
def CallMarks.dates (marks : CallMarks) :
    Option DateTime × Option DateTime × Option DateTime :=
  (marks.date, marks.dateAnswer, marks.dateEnd)

lemma dates_of_core {call call' : RawCallLog} (h : call'.core = call.core) :
    call'.marks.dates = call.marks.dates := congrArg (fun core => core.2.dates) h

/-- The dates are those of a start, a bridge and an end among the CELs. -/
structure CallMarks.DatedBy (cels : List CEL) (marks : CallMarks) : Prop where
  date : ∀ date ∈ marks.date, ∃ cel ∈ cels, cel.eventtype = .chanStart ∧ cel.eventtime = date
  dateAnswer : ∀ answer ∈ marks.dateAnswer, ∃ cel ∈ cels,
    (cel.eventtype = .bridgeStart ∨ cel.eventtype = .bridgeEnter) ∧ cel.eventtime = answer
  dateEnd : ∀ stop ∈ marks.dateEnd, ∃ cel ∈ cels, cel.eventtype = .chanEnd ∧ cel.eventtime = stop

variable {cels done : List CEL} {cel : CEL} {marks marks' : CallMarks} {x : Externals}
  {call call' : RawCallLog}

lemma CallMarks.DatedBy.mono {cels' : List CEL} (h : marks.DatedBy cels) (hsub : cels ⊆ cels') :
    marks.DatedBy cels' where
  date date hdate :=
    let ⟨cel, hcel, h⟩ := h.date date hdate
    ⟨cel, hsub hcel, h⟩
  dateAnswer answer hanswer :=
    let ⟨cel, hcel, h⟩ := h.dateAnswer answer hanswer
    ⟨cel, hsub hcel, h⟩
  dateEnd stop hstop :=
    let ⟨cel, hcel, h⟩ := h.dateEnd stop hstop
    ⟨cel, hsub hcel, h⟩

/-- An event of the caller's channel writes no date but its own. -/
lemma CallMarks.DatedBy.step (h : marks.DatedBy done) (hstep : CallerMarks cel marks marks') :
    marks'.DatedBy (done ++ [cel]) := by
  have hdone := h.mono (List.subset_append_left done [cel])
  have hcel : cel ∈ done ++ [cel] := List.mem_append_right done (List.mem_singleton_self cel)
  cases hstep with
  | chanStart htype =>
    refine ⟨fun date hdate => ⟨cel, hcel, htype, Option.some.inj hdate⟩, hdone.dateAnswer,
      hdone.dateEnd⟩
  | chanEnd htype =>
    refine ⟨hdone.date, hdone.dateAnswer, fun stop hstop => ⟨cel, hcel, htype, ?_⟩⟩
    exact Option.some.inj hstop
  | bridge htype =>
    refine ⟨hdone.date, fun answer hanswer => ⟨cel, hcel, htype, ?_⟩, hdone.dateEnd⟩
    exact Option.some.inj hanswer
  | meeting exten _ _ => exact ⟨hdone.date, hdone.dateAnswer, hdone.dateEnd⟩
  | other _ _ => exact hdone

variable (cels) in
lemma datedBy_of_dates (h : marks.dates = (none, none, none)) : marks.DatedBy cels := by
  have hdate : marks.date = none := congrArg Prod.fst h
  have hanswer : marks.dateAnswer = none := congrArg (fun d => d.2.1) h
  have hend : marks.dateEnd = none := congrArg (fun d => d.2.2) h
  refine ⟨?_, ?_, ?_⟩
  · simp [hdate]
  · simp [hanswer]
  · simp [hend]

lemma datedBy_caller (hcall : call.marks.dates = (none, none, none)) :
    Yields (CallerCELInterpretor.interpretCels x cels call) fun call' =>
      call'.marks.DatedBy cels :=
  .foldlM (P := fun done (call' : RawCallLog) => call'.marks.DatedBy done)
    (datedBy_of_dates [] hcall)
    (fun _ _ _ hdone =>
      CallerCELInterpretor.marks_interpretCel.mono fun _ hstep => hdone.step hstep) cels

/-- The events of the callees' channels write no date. -/
lemma dates_callee : Yields (CalleeCELInterpretor.interpretCels x cels call) fun call' =>
    call'.marks.dates = call.marks.dates := by
  refine .foldlM (P := fun _ (call' : RawCallLog) => call'.marks.dates = call.marks.dates) rfl
    (fun _ c cel hc => ?_) cels
  refine CalleeCELInterpretor.marks_interpretCel.mono fun c' hmarks => ?_
  rw [hmarks, ← hc, CalleeCELInterpretor.calleeMarks]
  split <;> rfl

/-- The dates of one channel are in order. -/
lemma CallMarks.DatedBy.chronological (h : call.marks.DatedBy cels) (horder : ChannelsInOrder cels)
    (hchannel : ∀ a ∈ cels, ∀ b ∈ cels, a.uniqueid = b.uniqueid) : call.Chronological where
  date_le_answer date hdate answer hanswer := by
    obtain ⟨a, ha, hstart, rfl⟩ := h.date date hdate
    obtain ⟨b, hb, -, rfl⟩ := h.dateAnswer answer hanswer
    exact horder.start_le ha hb hstart (hchannel a ha b hb)
  answer_le_end answer hanswer stop hstop := by
    obtain ⟨a, ha, hbridge, rfl⟩ := h.dateAnswer answer hanswer
    obtain ⟨b, hb, hend, rfl⟩ := h.dateEnd stop hstop
    exact horder.bridge_le ha hb hbridge hend (hchannel a ha b hb)
  date_le_end date hdate stop hstop := by
    obtain ⟨a, ha, hstart, rfl⟩ := h.date date hdate
    obtain ⟨b, hb, -, rfl⟩ := h.dateEnd stop hstop
    exact horder.start_le ha hb hstart (hchannel a ha b hb)

lemma chronological_of_dates (h : call'.marks.dates = call.marks.dates)
    (hcall : call.Chronological) : call'.Chronological := by
  have hdate : call'.date = call.date := congrArg Prod.fst h
  have hanswer : call'.dateAnswer = call.dateAnswer := congrArg (fun d => d.2.1) h
  have hend : call'.dateEnd = call.dateEnd := congrArg (fun d => d.2.2) h
  refine ⟨?_, ?_, ?_⟩
  · rw [hdate, hanswer]
    exact hcall.date_le_answer
  · rw [hanswer, hend]
    exact hcall.answer_le_end
  · rw [hdate, hend]
    exact hcall.date_le_end

/-- The dates of a dispatched call are those of the caller's channel. -/
lemma chronological_dispatch (horder : ChannelsInOrder cels)
    (hcall : call.marks.dates = (none, none, none)) :
    Yields (DispatchCELInterpretor.interpretCels x cels call) RawCallLog.Chronological := by
  rw [DispatchCELInterpretor.interpretCels]
  dsimp only
  refine .bind fun call₁ hcaller => dates_callee.mono fun call₂ hdates => ?_
  have hdated := datedBy_caller hcall call₁ hcaller
  refine chronological_of_dates hdates (hdated.chronological (horder.sublist ?_) ?_)
  · exact List.filter_sublist
  · intro a ha b hb
    have hfirst := of_decide_eq_true (List.mem_filter.1 ha).2
    have hfirst' := of_decide_eq_true (List.mem_filter.1 hb).2
    exact Option.some.inj (hfirst.symm.trans hfirst')

/-! ### An originated call -/

namespace LocalOriginateCELInterpretor

variable {ev : StartingEvents} {flow : Flow} {dateEnd : Option DateTime}
  {recordings : List Recording} {uniqueid : String}

/-- No MIXMONITOR event is ignored, so that the loops over the recordings go on. -/
def recordingsRead (x : Externals) (cels : List CEL) : Bool :=
  (eventsOf .mixmonitorStart cels).all (fun cel => (readStart x cel).isSome) &&
    (eventsOf .mixmonitorStop cels).all fun cel => (readStop x cel).isSome

/-- The destination of the call, if its channel was answered, enters no bridge after the
channel of the source has ended. -/
def NoBridgeAfterEnd (x : Externals) (cels : List CEL) : Prop :=
  ∀ ev ∈ startingEvents cels, recordingsRead x cels → ∀ uniqueid ∈ destinationChannel cels ev,
    (firstOf cels uniqueid .answer).isSome →
      ∀ bridge ∈ cels, bridge.uniqueid = uniqueid → bridge.eventtype = .bridgeEnter →
        bridge.eventtime ≤ ev.sourceChannelEnd.eventtime

instance (cels : List CEL) : Decidable (NoBridgeAfterEnd x cels) :=
  inferInstanceAs (Decidable (∀ _ ∈ _, _ → ∀ _ ∈ _, _ → ∀ _ ∈ _, _ → _ → _))

/-- The bridge that answers the call. -/
def answeringBridge (cels : List CEL) (ev : StartingEvents) : Option CEL :=
  (destinationChannel cels ev).bind fun uniqueid =>
    (firstOf cels uniqueid .answer).bind fun _ =>
      (cels.filter fun cel => cel.uniqueid = uniqueid ∧ cel.eventtype = .bridgeEnter).getLast?

lemma exists_next_iff (h : interpretRecordings x cels dateEnd recordings = .ok flow) :
    (∃ recordings, flow = .next recordings) ↔ recordingsRead x cels := by
  obtain ⟨added, hadded, h⟩ := exists_of_bind_eq_ok h
  obtain rfl := addRecordings_eq_ok hadded
  rw [recordingsRead]
  cases hstarts : (eventsOf .mixmonitorStart cels).all fun cel => (readStart x cel).isSome with
  | false =>
    rw [hstarts] at h
    obtain rfl := Except.ok.inj h
    simp
  | true =>
    rw [hstarts] at h
    obtain ⟨stopped, hstopped, h⟩ := exists_of_bind_eq_ok h
    obtain rfl := stopRecordings_eq_ok hstopped
    cases hstops : (eventsOf .mixmonitorStop cels).all fun cel => (readStop x cel).isSome with
    | false =>
      rw [hstops] at h
      obtain rfl := Except.ok.inj h
      simp
    | true =>
      rw [hstops] at h
      obtain rfl := Except.ok.inj h
      simp

lemma answeringBridge_eq_none (h : setDestination x cels ev call = none) :
    answeringBridge cels ev = none := by
  rw [setDestination] at h
  rw [answeringBridge]
  cases hchannel : destinationChannel cels ev with
  | none => rfl
  | some uniqueid =>
    simp only [hchannel, Option.bind_eq_bind, Option.bind_eq_none_iff] at h
    simp only [Option.bind_some, Option.bind_eq_none_iff]
    intro answer hanswer
    exact Option.eq_none_iff_forall_not_mem.2 fun bridge hbridge =>
      absurd (h answer hanswer bridge hbridge) (by simp)

lemma dates_setDestination {date stop : Option DateTime}
    (hcall : call.marks.dates = (date, none, stop))
    (h : setDestination x cels ev call = some call') :
    call'.marks.dates = (date, (answeringBridge cels ev).map (·.eventtime), stop) := by
  rw [setDestination] at h
  rw [answeringBridge]
  cases hchannel : destinationChannel cels ev with
  | none =>
    rw [hchannel] at h
    obtain rfl := Option.some.inj h
    exact hcall
  | some uniqueid =>
    simp only [hchannel, Option.bind_eq_bind, Option.bind_eq_some_iff, Option.some.injEq] at h
    obtain ⟨answer, hanswer, bridge, hbridge, rfl⟩ := h
    simp only [Option.bind_some, hanswer, hbridge]
    have hdate : call.date = date := congrArg Prod.fst hcall
    have hstop : call.dateEnd = stop := congrArg (fun d => d.2.2) hcall
    rw [← hdate, ← hstop]
    rfl

/-- The events that all lines were called write no date. -/
lemma dates_setOriginateAllLines : Yields (setOriginateAllLines x cels call) fun call' =>
    call'.marks.dates = call.marks.dates := by
  rw [setOriginateAllLines]
  split
  · exact .pure rfl
  · refine .bind fun found _ => ?_
    split
    · exact .pure rfl
    · next info _ =>
      refine .pure ((dates_of_core (core_insertOrUpdateParticipantsInfo _ _)).trans ?_)
      show (call.setTenantUuid info.tenantUuid).marks.dates = call.marks.dates
      exact dates_of_core (core_setTenantUuid _)

/-- The dates of an originated call. -/
lemma dates_interpretCels (hev : startingEvents cels = some ev) (hcall : call.dateAnswer = none) :
    Yields (interpretCels x cels call) fun call' => call'.marks.dates =
      (some ev.localChannel1Start.eventtime,
        if recordingsRead x cels then (answeringBridge cels ev).map (·.eventtime) else none,
        some ev.sourceChannelEnd.eventtime) := by
  rw [interpretCels, hev]
  dsimp only
  refine .bind fun flow hflow => ?_
  have hread := exists_next_iff hflow
  cases flow with
  | leave recordings =>
    have hread : recordingsRead x cels = false := by simpa using hread
    rw [hread]
    exact .pure (by
      simp [CallMarks.dates, RawCallLog.marks, setSource, RawCallLog.updateParticipant, hcall])
  | next recordings =>
    have hread : recordingsRead x cels = true := hread.1 ⟨recordings, rfl⟩
    rw [hread]
    dsimp only
    -- up to the destination, the dates are those of the source
    have hsource : (setUserFieldAndVoicemail cels ev
        { setSource x ev call with recordings := recordings }).marks.dates =
          (some ev.localChannel1Start.eventtime, none, some ev.sourceChannelEnd.eventtime) := by
      refine (dates_of_core (core_setUserFieldAndVoicemail cels ev)).trans ?_
      show (some ev.localChannel1Start.eventtime, call.dateAnswer,
        some ev.sourceChannelEnd.eventtime) = _
      rw [hcall]
    cases hdestination : setDestination x cels ev (setUserFieldAndVoicemail cels ev
        { setSource x ev call with recordings := recordings }) with
    | none =>
      rw [answeringBridge_eq_none hdestination]
      exact .pure hsource
    | some call₁ =>
      refine dates_setOriginateAllLines.mono fun call₂ hcall₂ => ?_
      rw [hcall₂]
      have hdates := dates_setDestination hsource hdestination
      exact hdates

/-! ### The events that are looked for -/

lemma firstOf_eq_some {eventtype : CELEventType} (h : firstOf cels uniqueid eventtype = some cel) :
    cel ∈ cels ∧ cel.uniqueid = uniqueid ∧ cel.eventtype = eventtype := by
  have hprop := List.find?_some h
  rw [decide_eq_true_eq] at hprop
  exact ⟨List.mem_of_find?_eq_some h, hprop⟩

lemma startingEvents_eq_some (h : startingEvents cels = some ev) :
    (∃ others, DispatchCELInterpretor.chanStartUniqueids cels =
        ev.localChannel1 :: ev.localChannel2 :: ev.sourceChannel :: others) ∧
      firstOf cels ev.localChannel1 .chanStart = some ev.localChannel1Start ∧
      firstOf cels ev.sourceChannel .chanEnd = some ev.sourceChannelEnd := by
  rw [startingEvents] at h
  split at h
  · next localChannel1 localChannel2 sourceChannel others huniqueids =>
    simp only [Option.bind_eq_bind, Option.bind_eq_some_iff, Option.some.injEq] at h
    obtain ⟨start, hstart, answer, -, stop, hstop, answer₂, -, rfl⟩ := h
    exact ⟨⟨others, huniqueids⟩, hstart, hstop⟩
  · cases h

/-- The call starts with its first CHAN_START. -/
lemma localChannel1Start_le (horder : ChannelsInOrder cels) (hev : startingEvents cels = some ev)
    (hcel : cel ∈ cels) (hstart : cel.eventtype = .chanStart) :
    ev.localChannel1Start.eventtime ≤ cel.eventtime := by
  obtain ⟨⟨others, huniqueids⟩, hlocal, -⟩ := startingEvents_eq_some hev
  obtain ⟨hlocal, hchannel, htype⟩ := firstOf_eq_some hlocal
  -- the first CHAN_START comes before the others
  obtain ⟨first, starts, hstarts, hfirst, -⟩ := List.map_eq_cons_iff.1 huniqueids
  have hmem : first ∈ cels.filter fun cel => cel.eventtype = .chanStart :=
    hstarts ▸ List.mem_cons_self
  have hsorted := horder.sublist
    (List.filter_sublist : (cels.filter fun cel => cel.eventtype = .chanStart).Sublist cels)
  rw [hstarts] at hsorted
  have hle : first.eventtime ≤ cel.eventtime := by
    have hcel : cel ∈ first :: starts :=
      hstarts ▸ List.mem_filter.2 ⟨hcel, decide_eq_true hstart⟩
    rcases List.mem_cons.1 hcel with rfl | hcel
    · exact le_rfl
    · exact ((List.pairwise_cons.1 hsorted).1 cel hcel).time
  have hlocal := horder.start_le hlocal (List.mem_of_mem_filter hmem) htype
    (hchannel.trans hfirst.symm)
  exact hlocal.trans hle

lemma exists_start_of_mem (starts : List CEL) (h : uniqueid ∈ starts.map (·.uniqueid))
    (hstarts : ∀ cel ∈ starts, cel ∈ cels ∧ cel.eventtype = .chanStart) :
    ∃ cel ∈ cels, cel.eventtype = .chanStart ∧ cel.uniqueid = uniqueid := by
  obtain ⟨cel, hcel, huniqueid⟩ := List.mem_map.1 h
  exact ⟨cel, (hstarts cel hcel).1, (hstarts cel hcel).2, huniqueid⟩

lemma sourceChannel_start (hev : startingEvents cels = some ev) :
    ∃ cel ∈ cels, cel.eventtype = .chanStart ∧ cel.uniqueid = ev.sourceChannel := by
  obtain ⟨⟨others, huniqueids⟩, -⟩ := startingEvents_eq_some hev
  refine exists_start_of_mem (cels.filter fun cel => cel.eventtype = .chanStart) ?_ ?_
  · have hmem : ev.sourceChannel ∈ DispatchCELInterpretor.chanStartUniqueids cels := by
      rw [huniqueids]
      simp
    exact hmem
  · intro cel hcel
    exact ⟨List.mem_of_mem_filter hcel, of_decide_eq_true (List.mem_filter.1 hcel).2⟩

lemma destinationChannel_start (h : destinationChannel cels ev = some uniqueid) :
    ∃ cel ∈ cels, cel.eventtype = .chanStart ∧ cel.uniqueid = uniqueid := by
  rw [destinationChannel] at h
  obtain ⟨hlast, -⟩ := Option.filter_eq_some_iff.1 h
  obtain ⟨bridge, hbridge, rfl⟩ := Option.map_eq_some_iff.1 hlast
  have hmem := (List.mem_filter.1 (List.mem_of_getLast? hbridge)).2
  simp only [Bool.and_eq_true, List.contains_iff_mem] at hmem
  refine exists_start_of_mem _ hmem.1 fun cel hcel => ?_
  obtain ⟨hcel, hstart⟩ := List.mem_filter.1 hcel
  simp only [Bool.and_eq_true, decide_eq_true_eq] at hstart
  exact ⟨hcel, hstart.1.2⟩

lemma answeringBridge_eq_some {bridge : CEL} (h : answeringBridge cels ev = some bridge) :
    ∃ uniqueid, destinationChannel cels ev = some uniqueid ∧
      (firstOf cels uniqueid .answer).isSome ∧ bridge ∈ cels ∧ bridge.uniqueid = uniqueid ∧
      bridge.eventtype = .bridgeEnter := by
  simp only [answeringBridge, Option.bind_eq_some_iff] at h
  obtain ⟨uniqueid, hchannel, answer, hanswer, hlast⟩ := h
  obtain ⟨hmem, hbridge⟩ := List.mem_filter.1 (List.mem_of_getLast? hlast)
  rw [decide_eq_true_eq] at hbridge
  exact ⟨uniqueid, hchannel, Option.isSome_of_eq_some hanswer, hmem, hbridge⟩

/-- The last bridge of the destination answers the call. -/
lemma le_answeringBridge (horder : ChannelsInOrder cels)
    (hchannel : destinationChannel cels ev = some uniqueid)
    (hanswer : (firstOf cels uniqueid .answer).isSome) (hcel : cel ∈ cels)
    (huniqueid : cel.uniqueid = uniqueid) (htype : cel.eventtype = .bridgeEnter) :
    ∃ bridge, answeringBridge cels ev = some bridge ∧ cel.eventtime ≤ bridge.eventtime := by
  obtain ⟨answer, hanswer⟩ := Option.isSome_iff_exists.1 hanswer
  have hmem : cel ∈ cels.filter fun cel => cel.uniqueid = uniqueid ∧
      cel.eventtype = .bridgeEnter :=
    List.mem_filter.2 ⟨hcel, decide_eq_true ⟨huniqueid, htype⟩⟩
  cases hlast : (cels.filter fun cel => cel.uniqueid = uniqueid ∧
      cel.eventtype = .bridgeEnter).getLast? with
  | none =>
    rw [List.getLast?_eq_none_iff] at hlast
    rw [hlast] at hmem
    exact absurd hmem List.not_mem_nil
  | some bridge =>
    refine ⟨bridge, by simp only [answeringBridge, hchannel, hanswer, Option.bind_some, hlast], ?_⟩
    obtain ⟨before, hbefore⟩ := List.getLast?_eq_some_iff.1 hlast
    have hsorted := horder.sublist (List.filter_sublist (l := cels)
      (p := fun cel => cel.uniqueid = uniqueid ∧ cel.eventtype = .bridgeEnter))
    rw [hbefore] at hmem hsorted
    rcases List.mem_append.1 hmem with hmem | hmem
    · exact ((List.pairwise_append.1 hsorted).2.2 cel hmem bridge (List.mem_singleton_self _)).time
    · rw [List.mem_singleton.1 hmem]

/-- The answer is a bridge of the destination, which starts no earlier than the call. -/
lemma localChannel1Start_le_answeringBridge {bridge : CEL} (horder : ChannelsInOrder cels)
    (hev : startingEvents cels = some ev) (h : answeringBridge cels ev = some bridge) :
    ev.localChannel1Start.eventtime ≤ bridge.eventtime := by
  obtain ⟨uniqueid, hchannel, -, hcel, huniqueid, -⟩ := answeringBridge_eq_some h
  obtain ⟨start, hstart, hstarttype, hstartid⟩ := destinationChannel_start hchannel
  exact (localChannel1Start_le horder hev hstart hstarttype).trans
    (horder.start_le hstart hcel hstarttype (hstartid.trans huniqueid.symm))

/-- The call does not end before it starts. -/
lemma localChannel1Start_le_sourceChannelEnd (horder : ChannelsInOrder cels)
    (hev : startingEvents cels = some ev) :
    ev.localChannel1Start.eventtime ≤ ev.sourceChannelEnd.eventtime := by
  obtain ⟨-, -, hstop⟩ := startingEvents_eq_some hev
  obtain ⟨hstop, hsource, -⟩ := firstOf_eq_some hstop
  obtain ⟨start, hstart, hstarttype, hstartid⟩ := sourceChannel_start hev
  exact (localChannel1Start_le horder hev hstart hstarttype).trans
    (horder.start_le hstart hstop hstarttype (hstartid.trans hsource.symm))

/-- An originated call is in order unless its destination enters a bridge too late. -/
lemma chronological_iff_noBridgeAfterEnd (horder : ChannelsInOrder cels)
    (hcall : call.marks.dates = (none, none, none)) :
    Yields (interpretCels x cels call) fun call' =>
      call'.Chronological ↔ NoBridgeAfterEnd x cels := by
  intro call' h
  cases hev : startingEvents cels with
  | none =>
    rw [interpretCels, hev] at h
    obtain rfl := Except.ok.inj h
    have hchronological : call.Chronological :=
      (datedBy_of_dates [] hcall).chronological List.Pairwise.nil (by simp)
    simp [NoBridgeAfterEnd, hev, hchronological]
  | some ev =>
    have hdates := dates_interpretCels hev (congrArg (fun d => d.2.1) hcall) call' h
    have hdate : call'.date = some ev.localChannel1Start.eventtime := congrArg Prod.fst hdates
    have hanswer : call'.dateAnswer = if recordingsRead x cels then
        (answeringBridge cels ev).map (·.eventtime) else none := congrArg (fun d => d.2.1) hdates
    have hend : call'.dateEnd = some ev.sourceChannelEnd.eventtime :=
      congrArg (fun d => d.2.2) hdates
    -- the answer, if there is one, is the time of a bridge
    have hbridge : ∀ answer ∈ call'.dateAnswer, recordingsRead x cels ∧
        ∃ bridge, answeringBridge cels ev = some bridge ∧ bridge.eventtime = answer := by
      intro answer hmem
      rw [hanswer] at hmem
      by_cases hread : recordingsRead x cels
      · rw [if_pos hread] at hmem
        exact ⟨hread, Option.map_eq_some_iff.1 hmem⟩
      · rw [if_neg hread] at hmem
        cases hmem
    constructor
    · intro hchronological ev' hev' hread uniqueid hchannel hanswered bridge hbridge huniqueid htype
      obtain rfl := Option.some.inj (hev.symm.trans hev')
      obtain ⟨last, hlast, hle⟩ :=
        le_answeringBridge horder hchannel hanswered hbridge huniqueid htype
      rw [if_pos hread, hlast] at hanswer
      exact hle.trans (hchronological.answer_le_end _ hanswer _ hend)
    · intro hbridges
      refine ⟨?_, ?_, ?_⟩
      · intro date hmem answer hmem'
        rw [hdate] at hmem
        obtain ⟨-, bridge, hbridge, rfl⟩ := hbridge answer hmem'
        rw [← Option.some.inj hmem]
        exact localChannel1Start_le_answeringBridge horder hev hbridge
      · intro answer hmem stop hmem'
        rw [hend] at hmem'
        obtain ⟨hread, bridge, hbridge, rfl⟩ := hbridge answer hmem
        obtain ⟨uniqueid, hchannel, hanswered, hcel, huniqueid, htype⟩ :=
          answeringBridge_eq_some hbridge
        rw [← Option.some.inj hmem']
        exact hbridges ev hev hread uniqueid hchannel hanswered bridge hcel huniqueid htype
      · intro date hmem stop hmem'
        rw [hdate] at hmem
        rw [hend] at hmem'
        rw [← Option.some.inj hmem, ← Option.some.inj hmem']
        exact localChannel1Start_le_sourceChannelEnd horder hev

end LocalOriginateCELInterpretor

/-! ### The selected interpretor -/

open LocalOriginateCELInterpretor CallLogsGenerator

/-- The dates of a call are in order if, and only if, the destination of an originated call
enters no bridge after the channel of the source has ended. -/
theorem chronological_iff {linkedids : Finset String} (horder : ChannelsInOrder cels)
    (h : (getInterpretor cels).interpretCels x cels (newCallLog linkedids cels) = .ok call) :
    call.Chronological ↔ (getInterpretor cels = .localOriginate → NoBridgeAfterEnd x cels) := by
  have hcall : (newCallLog linkedids cels).marks.dates = (none, none, none) := rfl
  cases hinterpretor : getInterpretor cels with
  | localOriginate =>
    rw [hinterpretor] at h
    have hiff := chronological_iff_noBridgeAfterEnd horder hcall call h
    simpa using hiff
  | dispatch =>
    rw [hinterpretor] at h
    simp [chronological_dispatch horder hcall call h]

/-- A call that is originated for a user and answered. -/
def answeredOriginate : List CEL :=
  [plainEvent 1 "1.1" "Local/1002@default-00000000;1" .chanStart,
   plainEvent 2 "1.2" "Local/1002@default-00000000;2" .chanStart,
   plainEvent 3 "1.3" "PJSIP/alice-00000001" .chanStart,
   plainEvent 4 "1.3" "PJSIP/alice-00000001" .answer,
   plainEvent 5 "1.1" "Local/1002@default-00000000;1" .answer,
   plainEvent 6 "1.4" "PJSIP/bob-00000002" .chanStart,
   plainEvent 7 "1.4" "PJSIP/bob-00000002" .answer,
   plainEvent 8 "1.2" "Local/1002@default-00000000;2" .answer,
   plainEvent 9 "1.4" "PJSIP/bob-00000002" .bridgeEnter]

/-- The user hangs up. -/
def hungUpCall : List CEL :=
  answeredOriginate ++
    [plainEvent 10 "1.3" "PJSIP/alice-00000001" .chanEnd,
     plainEvent 11 "1.4" "PJSIP/bob-00000002" .chanEnd]

/-- The user transfers the call and hangs up. -/
def transferredCall : List CEL :=
  answeredOriginate ++
    [plainEvent 10 "1.3" "PJSIP/alice-00000001" .chanEnd,
     plainEvent 11 "1.4" "PJSIP/bob-00000002" .bridgeEnter,
     plainEvent 12 "1.4" "PJSIP/bob-00000002" .chanEnd]

theorem chronological_hungUpCall :
    ∃ call, (getInterpretor hungUpCall).interpretCels .ascii hungUpCall
        (newCallLog {"1.1"} hungUpCall) = .ok call ∧ call.Chronological := by
  have hrun : ∃ call, (getInterpretor hungUpCall).interpretCels .ascii hungUpCall
      (newCallLog {"1.1"} hungUpCall) = .ok call ∧ call.dateAnswer = some 9 :=
    exists_of_map_eq_ok (by decide +kernel)
  obtain ⟨call, hcall, -⟩ := hrun
  exact ⟨call, hcall, (chronological_iff (by decide +kernel) hcall).2 (by decide +kernel)⟩

/-- The call is answered after its end. -/
theorem transferredCall_not_chronological :
    ∃ call, ChannelsInOrder transferredCall ∧
      (getInterpretor transferredCall).interpretCels .ascii transferredCall
        (newCallLog {"1.1"} transferredCall) = .ok call ∧ ¬ call.Chronological := by
  have hrun : ∃ call, (getInterpretor transferredCall).interpretCels .ascii transferredCall
      (newCallLog {"1.1"} transferredCall) = .ok call ∧
        (call.dateAnswer, call.dateEnd) = (some 11, some 10) :=
    exists_of_map_eq_ok (g := fun call : RawCallLog => (call.dateAnswer, call.dateEnd))
      (by decide +kernel)
  obtain ⟨call, hcall, hdates⟩ := hrun
  refine ⟨call, by decide +kernel, hcall, fun h => ?_⟩
  have hle := h.answer_le_end 11 (congrArg Prod.fst hdates) 10 (congrArg Prod.snd hdates)
  exact absurd hle (by decide)

end CallLogd
