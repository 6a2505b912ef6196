/-
The extensions that are hidden from a call.

The filter is applied at the end of the caller's channel, before any event of a callee is
interpreted.  The callees' events write three of the fields again, and only one of these
writes looks at the extension `s`.
-/
import CallLogd.Lib.LastWrite
import CallLogd.Generator
import CallLogd.Interpretor.Marks
import CallLogd.Interpretor.Intervals

namespace CallLogd

open Results CallLogsGenerator

/-! ### Extensions -/

/-- The fields that `filter_call` treats. -/
inductive ExtenField where
  | source
  | sourceInternal
  | requested
  | requestedInternal
  | destination
  | destinationInternal
deriving DecidableEq, Repr

/-- The extension in a field. -/
def RawCallLog.exten (call : RawCallLog) : ExtenField → Option String
  | .source => call.sourceExten
  | .sourceInternal => call.sourceInternalExten
  | .requested => call.requestedExten
  | .requestedInternal => call.requestedInternalExten
  | .destination => call.destinationExten
  | .destinationInternal => call.destinationInternalExten

/-- No field has an extension that is hidden from the call. -/
def RawCallLog.HidesExtensions (call : RawCallLog) : Prop :=
  ∀ field, ∀ exten ∈ call.exten field, exten ∉ call.extensionFilter.extensions

variable {cels done : List CEL} {cel : CEL} {x : Externals} {call call' : RawCallLog}
  {field : ExtenField} {marks marks' : CallMarks}

/-! ### The caller -/

/-- The filter hides `s`, and not the empty text that it leaves in its place. -/
structure ExtensionFilter.Proper (f : ExtensionFilter) : Prop where
  hides : "s" ∈ f.extensions
  shows : "" ∉ f.extensions

lemma ExtensionFilter.proper_default : ({} : ExtensionFilter).Proper := ⟨by decide, by decide⟩

/-- What is filtered is not hidden. -/
lemma ExtensionFilter.Proper.not_mem_filter {f : ExtensionFilter} (hf : f.Proper)
    {exten : Option String} : ∀ e ∈ f.filter exten, e ∉ f.extensions := by
  intro e he
  cases exten with
  | none => cases he
  | some exten =>
    rw [ExtensionFilter.filter] at he
    split at he
    · exact Option.some.inj he ▸ hf.shows
    · next hshown => exact Option.some.inj he ▸ hshown

/-- The extension of a meeting is not empty. -/
lemma ExtensionFilter.Proper.step (h : marks.extensionFilter.Proper)
    (hstep : CallerMarks cel marks marks') : marks'.extensionFilter.Proper := by
  cases hstep with
  | meeting exten _ hexten =>
    refine ⟨Finset.mem_insert_of_mem h.hides, fun hempty => ?_⟩
    rcases Finset.mem_insert.1 hempty with rfl | hempty
    · exact absurd hexten (by decide)
    · exact h.shows hempty
  | chanStart _ => exact h
  | chanEnd _ => exact h
  | bridge _ => exact h
  | other _ _ => exact h

lemma proper_caller (h : call.extensionFilter.Proper) :
    Yields (CallerCELInterpretor.interpretCels x cels call) fun call' =>
      call'.extensionFilter.Proper :=
  .foldlM (P := fun _ (call' : RawCallLog) => call'.extensionFilter.Proper) h
    (fun _ _ _ hdone =>
      CallerCELInterpretor.marks_interpretCel.mono fun _ hstep => hdone.step hstep) cels

/-- The caller's channel ends, and nothing follows but its hangup. -/
def CallerStops (cels : List CEL) : Prop :=
  ∃ before stop after, (DispatchCELInterpretor.splitCallerCalleeCels cels).1 =
      before ++ stop :: after ∧ stop.eventtype = .chanEnd ∧
    ∀ cel ∈ after, cel.eventtype = .hangup ∨ cel.eventtype = .linkedidEnd

/-- The end of the channel hides the extensions. -/
lemma hidesExtensions_interpretChanEnd (h : call.extensionFilter.Proper) :
    (CallerCELInterpretor.interpretChanEnd cel call).HidesExtensions := by
  intro field exten hexten
  have hfilter : (CallerCELInterpretor.interpretChanEnd cel call).exten field =
      call.extensionFilter.filter (call.exten field) := by
    cases field <;> rfl
  rw [hfilter] at hexten
  exact h.not_mem_filter exten hexten

/-- A hangup is not interpreted. -/
lemma interpretCels_hangup
    (h : ∀ cel ∈ cels, cel.eventtype = .hangup ∨ cel.eventtype = .linkedidEnd) :
    CallerCELInterpretor.interpretCels x cels call = .ok call := by
  induction cels with
  | nil => rfl
  | cons cel cels ih =>
    have hcel : CallerCELInterpretor.interpretCel x cel call = .ok call := by
      rw [CallerCELInterpretor.interpretCel]
      rcases h cel List.mem_cons_self with htype | htype <;> rw [htype]
    have hcels := ih fun cel hcel => h cel (List.mem_cons_of_mem _ hcel)
    rw [CallerCELInterpretor.interpretCels, interpretEach, List.foldlM_cons, hcel]
    exact hcels

lemma hidesExtensions_caller {before after : List CEL} {stop : CEL}
    (hcall : call.extensionFilter.Proper) (hstop : stop.eventtype = .chanEnd)
    (hafter : ∀ cel ∈ after, cel.eventtype = .hangup ∨ cel.eventtype = .linkedidEnd) :
    Yields (CallerCELInterpretor.interpretCels x (before ++ stop :: after) call)
      RawCallLog.HidesExtensions := by
  intro call' h
  rw [CallerCELInterpretor.interpretCels, interpretEach, List.foldlM_append] at h
  obtain ⟨call₁, hbefore, h⟩ := exists_of_bind_eq_ok h
  rw [List.foldlM_cons] at h
  obtain ⟨call₂, hend, h⟩ := exists_of_bind_eq_ok h
  rw [CallerCELInterpretor.interpretCel, hstop] at hend
  obtain rfl := Except.ok.inj hend
  obtain rfl := Except.ok.inj ((interpretCels_hangup hafter).symm.trans h)
  exact hidesExtensions_interpretChanEnd (proper_caller hcall call₁ hbefore)

/-! ### The callees -/

namespace CalleeCELInterpretor

/-- What the start of a callee's channel writes. -/
def startWrites (cel : CEL) (call : RawCallLog) (field : ExtenField) : Option String :=
  if call.direction = .outbound ∨
      (Regex.matchStart waitForMobileRegex cel.channame.toList).isSome then none
  else
    match field with
    | .destination => if call.authoritativeDestinationInfo then none else some cel.cidNum
    | .destinationInternal =>
        if (pendingWaitForMobilePeer cel call).isSome then some cel.cidNum else none
    | _ => none

/-- What the first bridge of a callee writes. -/
def firstBridgeWrites (cel : CEL) (call : RawCallLog) (field : ExtenField) : Option String :=
  if field = .destination ∧ call.interpretCalleeBridgeEnter ∧
      (!call.authoritativeDestinationInfo ∨ call.wasForwarded) then
    if cel.cidNum ≠ "" ∧ cel.cidNum ≠ "s" then some cel.cidNum else none
  else none

/-- What the caller id of a callee that enters a bridge with a peer writes. -/
def callerIdWrites (cel : CEL) (call : RawCallLog) (field : ExtenField) : Option String :=
  if (field = .destination ∨ field = .destinationInternal) ∧ cel.peer ≠ "" ∧
      !call.authoritativeDestinationInfo then
    ((call.callerIdByChannels.get? cel.channame).map Prod.snd).filter (· ≠ "")
  else none

/-- What the number that was requested writes. -/
def requestedWrites (x : Externals) (cel : CEL) : ExtenField → Option String
  | .requestedInternal =>
      match extractCelExtra x cel.extra with
      | .ok extra =>
          if extra.truthy then
            match extractKeyValuePairsAsDict x extra with
            | .ok extraDict => (extraDict.get? "number").filter (· ≠ "")
            | .error _ => none
          else none
      | .error _ => none
  | _ => none

/-- The extension that an event of a callee's channel writes to a field. -/
def written (x : Externals) (field : ExtenField) (cel : CEL) (call : RawCallLog) : Option String :=
  match cel.eventtype with
  | .chanStart => startWrites cel call field
  | .bridgeStart => (callerIdWrites cel call field).or (firstBridgeWrites cel call field)
  | .bridgeEnter => (callerIdWrites cel call field).or (firstBridgeWrites cel call field)
  | .wazoCallLogRequestedInternal => requestedWrites x cel field
  | _ => none

lemma exten_interpretInternalChanStart (h : call.direction ≠ .outbound) :
    (interpretInternalChanStart cel call).exten field =
      (startWrites cel call field).or (call.exten field) := by
  unfold startWrites
  rw [interpretInternalChanStart]
  split
  · next hmobile =>
    rw [if_pos (.inr (by rw [hmobile]; rfl))]
    cases field <;> rfl
  · next hmobile =>
    rw [if_neg (by simp [h, hmobile])]
    split
    · next peer hpeer =>
      cases field with
      | destination =>
        simp only [RawCallLog.exten, setDestination]
        split
        · simp
        · simp
      | destinationInternal => simp [RawCallLog.exten, hpeer]
      | _ =>
        simp only [RawCallLog.exten, setDestination]
        split <;> rfl
    · next hpeer =>
      cases field with
      | destination =>
        simp only [RawCallLog.exten, setDestination]
        split
        · simp
        · simp
      | _ =>
        simp only [RawCallLog.exten, setDestination, hpeer]
        split <;> rfl

lemma exten_interpretChanStart : (interpretChanStart x cel call).exten field =
    (startWrites cel call field).or (call.exten field) := by
  rw [interpretChanStart]
  dsimp only
  split
  · next h =>
    unfold startWrites
    rw [if_pos (.inl h)]
    cases field <;> rfl
  · next h => exact exten_interpretInternalChanStart h

variable (cel call field) in
lemma exten_setDestinationFromFirstBridge : (setDestinationFromFirstBridge cel call).exten field =
    (firstBridgeWrites cel call field).or (call.exten field) := by
  rw [setDestinationFromFirstBridge, firstBridgeWrites]
  split
  · next h =>
    cases field with
    | destination =>
      simp only [RawCallLog.exten, true_and, if_pos h]
      split <;> rfl
    | _ => rfl
  · next h => rw [if_neg fun hfield => h hfield.2, Option.none_or]

lemma exten_setDestinationFromCallerId (callerId : String × String) :
    (setDestinationFromCallerId callerId call).exten field =
      ((if field = .destination ∨ field = .destinationInternal then
        (some callerId.2).filter (· ≠ "") else none).or (call.exten field)) := by
  unfold setDestinationFromCallerId
  by_cases hname : callerId.1 = "" <;> by_cases hnumber : callerId.2 = "" <;>
    cases field <;> simp [RawCallLog.exten, Option.filter_some, hname, hnumber]

lemma exten_interpretBridgeEnter : Yields (interpretBridgeEnter x cel call) fun call' =>
    call'.exten field = ((callerIdWrites cel call field).or (firstBridgeWrites cel call field)).or
      (call.exten field) := by
  have hfirst := exten_setDestinationFromFirstBridge cel
    (call.updateParticipant cel.channame fun p => { p with answered := some true }) field
  obtain ⟨hcallerIds, hauthority⟩ := setDestinationFromFirstBridge_lookup
    (call.updateParticipant cel.channame fun p => { p with answered := some true }) cel
  rw [interpretBridgeEnter]
  refine .bind fun _ _ => ?_
  dsimp only
  split
  · next hpeer =>
    refine .pure ?_
    have hnone : callerIdWrites cel call field = none := if_neg fun h => h.2.1 hpeer
    rw [hfirst, hnone]
    rfl
  · next hpeer =>
    rw [Option.or_assoc]
    split
    · next hauthoritative =>
      -- an authoritative destination is not replaced
      have hcall : call.authoritativeDestinationInfo = true :=
        hauthority.symm.trans hauthoritative
      have hnone : callerIdWrites cel call field = none := if_neg fun h => by simp [hcall] at h
      rw [hnone, Option.none_or]
      exact .pure hfirst
    · next hauthoritative =>
      have hcall : call.authoritativeDestinationInfo = false := by
        rw [Bool.not_eq_true] at hauthoritative
        exact hauthority.symm.trans hauthoritative
      split
      · next callerId hget =>
        have hget : call.callerIdByChannels.get? cel.channame = some callerId := by
          rw [← hget]
          exact congrArg (Dict.get? · cel.channame) hcallerIds.symm
        have hwrites : callerIdWrites cel call field =
            if field = .destination ∨ field = .destinationInternal then
              (some callerId.2).filter (· ≠ "") else none := by
          simp [callerIdWrites, hpeer, hcall, hget]
        refine .pure ?_
        rw [exten_setDestinationFromCallerId, hwrites]
        exact congrArg _ hfirst
      · exact .error

lemma exten_interpretRequestedInternal : Yields (interpretRequestedInternal x cel call)
    fun call' => call'.exten field = (requestedWrites x cel field).or (call.exten field) := by
  rw [interpretRequestedInternal]
  refine .bind fun extra hextra => ?_
  split
  · next h =>
    refine .pure ?_
    cases field <;> simp_all [requestedWrites]
  · next h =>
    refine .bind fun extraDict hdict => .pure ?_
    cases field with
    | requestedInternal =>
      have htruthy : extra.truthy = true := by simpa using h
      simp only [RawCallLog.exten, CallerCELInterpretor.setRequestedInternal, requestedWrites,
        hextra, hdict, htruthy, if_true]
      cases extraDict.get? "number" with
      | none => rfl
      | some number => by_cases hnumber : number = "" <;> simp [truthy, Option.filter_some, hnumber]
    | _ => rfl

lemma exten_interpretVoicemailAppStart :
    (interpretVoicemailAppStart cel call).exten field = call.exten field := by
  rw [interpretVoicemailAppStart]
  split
  · cases field <;> rfl
  · rfl

lemma exten_interpretMixmonitorStart : Yields (interpretMixmonitorStart x cel call) fun call' =>
    call'.exten field = call.exten field :=
  part_interpretMixmonitorStart fun _ _ => by cases field <;> rfl

lemma exten_interpretMixmonitorStop : Yields (interpretMixmonitorStop x cel call) fun call' =>
    call'.exten field = call.exten field :=
  CallerCELInterpretor.part_interpretMixmonitorStop fun _ _ => by cases field <;> rfl

variable (x field cel call) in
/-- The extensions after an event of a callee's channel. -/
lemma exten_interpretCel : Yields (interpretCel x cel call) fun call' =>
    call'.exten field = (written x field cel call).or (call.exten field) := by
  rw [interpretCel, written]
  cases cel.eventtype with
  | chanStart => exact .ok exten_interpretChanStart
  | chanEnd => exact .ok (by cases field <;> rfl)
  | bridgeStart => exact exten_interpretBridgeEnter
  | bridgeEnter => exact exten_interpretBridgeEnter
  | appStart => exact .ok exten_interpretVoicemailAppStart
  | mixmonitorStart => exact exten_interpretMixmonitorStart
  | mixmonitorStop => exact exten_interpretMixmonitorStop
  | wazoCallLogRequestedInternal => exact exten_interpretRequestedInternal
  | _ => exact .ok rfl

end CalleeCELInterpretor

/-- The callees' events leave the filter alone. -/
lemma extensionFilter_callee : Yields (CalleeCELInterpretor.interpretCels x cels call) fun call' =>
    call'.extensionFilter = call.extensionFilter := by
  refine .foldlM (P := fun _ (call' : RawCallLog) => call'.extensionFilter = call.extensionFilter)
    rfl (fun _ c cel hc => ?_) cels
  refine CalleeCELInterpretor.marks_interpretCel.mono fun c' hmarks => ?_
  have hfilter : c'.extensionFilter =
      (CalleeCELInterpretor.calleeMarks cel c.marks).extensionFilter :=
    congrArg CallMarks.extensionFilter hmarks
  rw [hfilter, ← hc, CalleeCELInterpretor.calleeMarks]
  split <;> rfl

/-! ### The call -/

namespace DispatchCELInterpretor

/-- Each hidden extension that an event of a callee writes to a field is overwritten by a
later event. -/
def HiddenOverwritten (x : Externals) (cels : List CEL) (call : RawCallLog) : Prop :=
  ∀ field done cel rest state, (splitCallerCalleeCels cels).2 = done ++ cel :: rest →
    Reaches x cels call done state → ∀ number ∈ CalleeCELInterpretor.written x field cel state,
      number ∈ state.extensionFilter.extensions →
        ∃ done' cel' rest' state', rest = done' ++ cel' :: rest' ∧
          Reaches x cels call (done ++ cel :: done') state' ∧
          (CalleeCELInterpretor.written x field cel' state').isSome

lemma reaches_iff {call₁ state : RawCallLog} (h : CallerCELInterpretor.interpretCels x
      (splitCallerCalleeCels cels).1 call = .ok call₁) :
    Reaches x cels call done state ↔
      CalleeCELInterpretor.interpretCels x done call₁ = .ok state := by
  constructor
  · rintro ⟨call₂, hcaller, hcallee⟩
    obtain rfl := Except.ok.inj (h.symm.trans hcaller)
    exact hcallee
  · exact fun hcallee => ⟨call₁, h, hcallee⟩

/-- No hidden extension is left in a call whose caller's channel ends if, and only if, those
that the callees' events write are overwritten. -/
theorem hidesExtensions_iff {linkedids : Finset String} (hstop : CallerStops cels)
    (h : interpretCels x cels (newCallLog linkedids cels) = .ok call) :
    call.HidesExtensions ↔ HiddenOverwritten x cels (newCallLog linkedids cels) := by
  obtain ⟨call₁, hcaller, hcallee⟩ := reaches_of_interpretCels h
  obtain ⟨before, stop, after, hcels, hend, hafter⟩ := hstop
  have hproper : (newCallLog linkedids cels).extensionFilter.Proper :=
    ExtensionFilter.proper_default
  have hcall₁ : call₁.HidesExtensions := by
    rw [hcels] at hcaller
    exact hidesExtensions_caller hproper hend hafter call₁ hcaller
  have hfilter : ∀ {done : List CEL} {state : RawCallLog},
      CalleeCELInterpretor.interpretCels x done call₁ = .ok state →
        state.extensionFilter = call₁.extensionFilter :=
    fun hstate => extensionFilter_callee _ hstate
  -- in each field, the last write counts
  have hfield := fun field => LastWrite.run_value_iff
    (fun c cel => CalleeCELInterpretor.interpretCel x cel c) (fun c => c.exten field)
    (fun cel c => (CalleeCELInterpretor.written x field cel c).map some)
    (fun exten => ∀ e ∈ exten, e ∉ call₁.extensionFilter.extensions)
    (fun c cel c' hc' => by
      rw [CalleeCELInterpretor.exten_interpretCel cel x c field c' hc']
      cases CalleeCELInterpretor.written x field cel c <;> rfl)
    (hcall₁ field) hcallee
  rw [RawCallLog.HidesExtensions, hfilter hcallee, HiddenOverwritten]
  refine forall_congr' fun field => (hfield field).trans ?_
  simp only [reaches_iff hcaller]
  constructor
  · intro hwrites done cel rest state hsplit hstate number hnumber hhidden
    have hwritten : some number ∈ (CalleeCELInterpretor.written x field cel state).map some :=
      Option.mem_map_of_mem some hnumber
    rcases hwrites done cel rest state hsplit hstate _ hwritten with hshown | hlater
    · rw [hfilter hstate] at hhidden
      exact absurd hhidden (hshown number rfl)
    · obtain ⟨done', cel', rest', state', hrest, hstate', hsome⟩ := hlater
      exact ⟨done', cel', rest', state', hrest, hstate', by simpa using hsome⟩
  · intro hwrites done cel rest state hsplit hstate exten hexten
    obtain ⟨number, hnumber, rfl⟩ := Option.map_eq_some_iff.1 hexten
    by_cases hhidden : number ∈ call₁.extensionFilter.extensions
    · rw [← hfilter hstate] at hhidden
      obtain ⟨done', cel', rest', state', hrest, hstate', hsome⟩ :=
        hwrites done cel rest state hsplit hstate number hnumber hhidden
      exact .inr ⟨done', cel', rest', state', hrest, hstate', by simpa using hsome⟩
    · refine .inl fun e he => ?_
      rwa [← Option.some.inj he]

/-- A call to a channel with a number, which is not answered. -/
def unansweredCall (number : String) : List CEL :=
  [plainEvent 1 "1.1" "PJSIP/alice-00000001" .chanStart,
   { plainEvent 2 "1.2" "PJSIP/bob-00000002" .chanStart with cidNum := number },
   plainEvent 3 "1.1" "PJSIP/alice-00000001" .chanEnd,
   plainEvent 4 "1.1" "PJSIP/alice-00000001" .hangup]

lemma callerStops_unansweredCall (number : String) : CallerStops (unansweredCall number) :=
  ⟨[plainEvent 1 "1.1" "PJSIP/alice-00000001" .chanStart],
    plainEvent 3 "1.1" "PJSIP/alice-00000001" .chanEnd,
    [plainEvent 4 "1.1" "PJSIP/alice-00000001" .hangup], rfl, rfl, by simp [plainEvent]⟩

lemma exists_interpretCels_unansweredCall :
    (∃ call, interpretCels .ascii (unansweredCall "1002")
        (newCallLog {"1.1"} (unansweredCall "1002")) = .ok call ∧
          ([ExtenField.source, .sourceInternal, .requested, .requestedInternal, .destination,
            .destinationInternal].map call.exten, call.extensionFilter) =
            ([some "1001", none, some "", none, some "1002", none], {})) ∧
      ∃ call, interpretCels .ascii (unansweredCall "s")
        (newCallLog {"1.1"} (unansweredCall "s")) = .ok call ∧
          (call.destinationExten, call.extensionFilter) = (some "s", {}) :=
  ⟨exists_of_map_eq_ok
      (g := fun call : RawCallLog => ([ExtenField.source, .sourceInternal, .requested,
        .requestedInternal, .destination, .destinationInternal].map call.exten,
        call.extensionFilter)) (by decide +kernel),
    exists_of_map_eq_ok
      (g := fun call : RawCallLog => (call.destinationExten, call.extensionFilter))
      (by decide +kernel)⟩

/-- Nothing is hidden from a call to an ordinary number. -/
theorem hiddenOverwritten_unansweredCall : ∃ call,
    interpretCels .ascii (unansweredCall "1002") (newCallLog {"1.1"} (unansweredCall "1002")) =
      .ok call ∧ call.HidesExtensions ∧
    HiddenOverwritten .ascii (unansweredCall "1002")
      (newCallLog {"1.1"} (unansweredCall "1002")) := by
  obtain ⟨⟨call, hcall, hextens⟩, -⟩ := exists_interpretCels_unansweredCall
  have hhides : call.HidesExtensions := by
    simp only [Prod.mk.injEq, List.map_cons, List.map_nil, List.cons.injEq, and_true] at hextens
    obtain ⟨⟨h₁, h₂, h₃, h₄, h₅, h₆⟩, hfilter⟩ := hextens
    intro field
    rw [hfilter]
    cases field <;> simp only [h₁, h₂, h₃, h₄, h₅, h₆] <;> decide
  exact ⟨call, hcall, hhides,
    (hidesExtensions_iff (callerStops_unansweredCall "1002") hcall).1 hhides⟩

/-- The number of a callee's channel is not filtered. -/
theorem unansweredCall_shows_s : CallerStops (unansweredCall "s") ∧
    (∃ cel ∈ (splitCallerCalleeCels (unansweredCall "s")).1, cel.eventtype = .chanStart) ∧
    ∃ call, interpretCels .ascii (unansweredCall "s") (newCallLog {"1.1"} (unansweredCall "s")) =
      .ok call ∧ ¬call.HidesExtensions := by
  refine ⟨callerStops_unansweredCall "s", ⟨_, List.mem_cons_self, rfl⟩, ?_⟩
  obtain ⟨-, call, hcall, hextens⟩ := exists_interpretCels_unansweredCall
  obtain ⟨hdestination, hfilter⟩ := Prod.mk.inj hextens
  refine ⟨call, hcall, fun hhides => ?_⟩
  have hshown := hhides .destination "s" hdestination
  rw [hfilter] at hshown
  exact absurd hshown (by decide)

end DispatchCELInterpretor

end CallLogd
