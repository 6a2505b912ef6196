/-
Calls that are forwarded more than once.

The first forward says who was called, and the last one where the call went.  The first is
kept by a flag, which no other event touches; the last by overwriting, and between two
forwards the events may write the destination as they like.
-/
import Mathlib.Data.List.DropRight
import CallLogd.Generator
import CallLogd.Interpretor.Intervals
import CallLogd.Interpretor.Parts

namespace CallLogd

open Results CallLogsGenerator

/-! ### Forwards -/

/-- What a forward says. -/
structure Forward where
  number : String
  context : String
  name : String
deriving DecidableEq, Repr

/-- A forward, as the pattern reads it. -/
def readForward (cel : CEL) : Option Forward :=
  if cel.eventtype = .xivoUserFwd then
    (cel.extra.bind fun text => Regex.matchStart extraUserFwdRegex text.toList).map fun caps =>
      ⟨String.ofList (caps.get 1), String.ofList (caps.get 2), String.ofList (caps.get 3)⟩
  else none

/-- The forwards of a caller, in order. -/
def forwards (cels : List CEL) : List Forward := cels.filterMap readForward

/-- The events after the last forward. -/
def afterLastForward (cels : List CEL) : List CEL :=
  cels.rtakeWhile fun cel => cel.eventtype ≠ .xivoUserFwd

/-- The events that write a destination of their own. -/
def WritesDestination (cel : CEL) : Prop :=
  cel.eventtype = .chanStart ∨ cel.eventtype = .xivoFromS ∨ cel.eventtype = .xivoOutcall

instance (cel : CEL) : Decidable (WritesDestination cel) := inferInstanceAs (Decidable (_ ∨ _))

/-- A text that is not empty and has no letters.  Texts of digits are such, whatever their
script. -/
def IsNumber (number : String) : Prop :=
  number ≠ "" ∧ ∀ c ∈ number.toList, c.isAlpha = false

instance (number : String) : Decidable (IsNumber number) :=
  inferInstanceAs (Decidable (_ ∧ ∀ c ∈ number.toList, c.isAlpha = false))

variable {cels done : List CEL} {cel : CEL} {x : Externals} {call : RawCallLog}
  {forward first last : Forward} {number exten : String}

lemma isNumber_of_isDigit (hne : number ≠ "") (h : ∀ c ∈ number.toList, c.isDigit = true) :
    IsNumber number := by
  refine ⟨hne, fun c hc => ?_⟩
  have hdigit := of_decide_eq_true ((Bool.and_eq_true_iff.1 (h c hc)).2)
  have hle : c.toNat ≤ 57 := UInt32.le_iff_toNat_le.1 hdigit
  by_contra halpha
  rcases Bool.or_eq_true_iff.1 (Bool.eq_true_of_not_eq_false halpha) with hupper | hlower
  · have hge : 65 ≤ c.toNat := UInt32.le_iff_toNat_le.1 (of_decide_eq_true hupper).1
    omega
  · have hsmall := of_decide_eq_true (Bool.and_eq_true_iff.1 hlower).1
    have hge : 97 ≤ c.toNat := UInt32.le_iff_toNat_le.1 hsmall
    omega

lemma not_isNumber_s : ¬IsNumber "s" := by decide

/-- The extension of a meeting has letters. -/
lemma not_isNumber_of_meeting
    (h : (Regex.matchStart meetingExtensionRegex exten.toList).isSome) : ¬IsNumber exten := by
  rintro ⟨-, hletters⟩
  obtain ⟨caps, hcaps⟩ := Option.isSome_iff_exists.1 h
  obtain ⟨u, v, _, _, hsplit, ⟨s, w, _, rfl, ⟨rfl, -⟩, label, t, _, rfl, hlabel, -⟩, -⟩ :=
    Regex.run_sound hcaps
  obtain ⟨rfl, -⟩ := Regex.matches_lit.1 hlabel
  have hw : 'w' ∈ exten.toList := by
    rw [hsplit]
    simp
  exact absurd (hletters 'w' hw) (by decide)

lemma readForward_of_ne (h : cel.eventtype ≠ .xivoUserFwd) : readForward cel = none := if_neg h

/-! ### One event -/

/-- The fields that forwards are about. -/
structure ForwardFields where
  requestedName : Option String
  requestedInternalExten : Option String
  requestedInternalContext : Option String
  destinationExten : Option String
  interpretCallerXivoUserFwd : Bool
  extensionFilter : ExtensionFilter

def RawCallLog.forwardFields (call : RawCallLog) : ForwardFields :=
  ⟨call.requestedName, call.requestedInternalExten, call.requestedInternalContext,
    call.destinationExten, call.interpretCallerXivoUserFwd, call.extensionFilter⟩

variable {fields fields' : ForwardFields}

/-- What a forward writes. -/
def ForwardFields.forwardTo (fields : ForwardFields) (forward : Forward) : ForwardFields :=
  let number := fields.extensionFilter.filter forward.number
  if fields.interpretCallerXivoUserFwd then
    { fields with
      requestedName := some forward.name
      requestedInternalExten := number
      requestedInternalContext := some forward.context
      destinationExten := number
      interpretCallerXivoUserFwd := false }
  else { fields with destinationExten := number }

lemma ForwardFields.forwardTo_of_first (h : fields.interpretCallerXivoUserFwd = true) :
    fields.forwardTo forward =
      { requestedName := some forward.name
        requestedInternalExten := fields.extensionFilter.filter forward.number
        requestedInternalContext := some forward.context
        destinationExten := fields.extensionFilter.filter forward.number
        interpretCallerXivoUserFwd := false
        extensionFilter := fields.extensionFilter } := if_pos h

lemma ForwardFields.forwardTo_of_later (h : fields.interpretCallerXivoUserFwd = false) :
    fields.forwardTo forward =
      { fields with destinationExten := fields.extensionFilter.filter forward.number } :=
  if_neg (by simp [h])

/-- What an event of the caller's channel can write to these fields. -/
inductive ForwardStep (cel : CEL) (fields : ForwardFields) : ForwardFields → Prop
  | forward (forward : Forward) (h : readForward cel = some forward) :
      ForwardStep cel fields (fields.forwardTo forward)
  | unread (h : cel.eventtype = .xivoUserFwd) (hnone : readForward cel = none) :
      ForwardStep cel fields { fields with interpretCallerXivoUserFwd := false }
  | chanEnd (h : cel.eventtype = .chanEnd) :
      ForwardStep cel fields
        { fields with
          requestedInternalExten := fields.extensionFilter.filter fields.requestedInternalExten
          destinationExten := fields.extensionFilter.filter fields.destinationExten }
  | answer (h : cel.eventtype = .answer) (hempty : truthy fields.destinationExten = false)
      (exten : String) : ForwardStep cel fields { fields with destinationExten := exten }
  | meeting (h : cel.eventtype = .wazoMeetingName) (exten : String)
      (hexten : (Regex.matchStart meetingExtensionRegex exten.toList).isSome) :
      ForwardStep cel fields
        { fields with extensionFilter := fields.extensionFilter.addExten exten }
  | destination (h : WritesDestination cel) (exten : Option String) :
      ForwardStep cel fields { fields with destinationExten := exten }
  | requested (h : cel.eventtype = .wazoCallLogRequestedInternal)
      (exten context : Option String) :
      ForwardStep cel fields
        { fields with requestedInternalExten := exten, requestedInternalContext := context }
  | other (h : cel.eventtype ≠ .xivoUserFwd) : ForwardStep cel fields fields

namespace CallerCELInterpretor

lemma forwardStep_interpretXivoUserFwd (h : cel.eventtype = .xivoUserFwd) :
    Yields (interpretXivoUserFwd cel call) fun call' =>
      ForwardStep cel call.forwardFields call'.forwardFields := by
  have hread : ∀ text, cel.extra = some text → readForward cel =
      (Regex.matchStart extraUserFwdRegex text.toList).map fun caps =>
        ⟨String.ofList (caps.get 1), String.ofList (caps.get 2), String.ofList (caps.get 3)⟩ := by
    intro text htext
    rw [readForward, if_pos h, htext, Option.bind_some]
  rw [interpretXivoUserFwd]
  split
  · exact .error
  · next text htext =>
    have hread := hread text htext
    dsimp only
    split
    · next hmatch =>
      rw [hmatch] at hread
      exact .ok (.unread h hread)
    · next caps hmatch =>
      rw [hmatch] at hread
      have hstep : ForwardStep cel call.forwardFields (call.forwardFields.forwardTo _) :=
        .forward _ hread
      split
      · next hfirst =>
        have hfirst : call.forwardFields.interpretCallerXivoUserFwd = true := hfirst
        rw [ForwardFields.forwardTo_of_first hfirst] at hstep
        exact .ok hstep
      · next hlater =>
        have hlater : call.forwardFields.interpretCallerXivoUserFwd = false :=
          Bool.not_eq_true _ ▸ hlater
        rw [ForwardFields.forwardTo_of_later hlater] at hstep
        exact .ok hstep

lemma forwardFields_interpretAppStart :
    (interpretAppStart cel call).forwardFields = call.forwardFields :=
  part_interpretAppStart fun _ _ _ _ _ _ _ => rfl

lemma forwardStep_interpretAnswer (h : cel.eventtype = .answer) :
    ForwardStep cel call.forwardFields (interpretAnswer cel call).forwardFields := by
  cases hexten : truthy call.destinationExten with
  | false =>
    have hstep : ForwardStep cel call.forwardFields
        { call.forwardFields with destinationExten := some cel.cidNum } := .answer h hexten _
    simpa [interpretAnswer, RawCallLog.forwardFields, hexten] using hstep
  | true =>
    have hstep : ForwardStep cel call.forwardFields call.forwardFields := .other (by simp [h])
    simpa [interpretAnswer, RawCallLog.forwardFields, hexten] using hstep

lemma forwardStep_interpretWazoMeetingName (h : cel.eventtype = .wazoMeetingName) :
    Yields (interpretWazoMeetingName x cel call) fun call' =>
      ForwardStep cel call.forwardFields call'.forwardFields := by
  have hother : ForwardStep cel call.forwardFields call.forwardFields := .other (by simp [h])
  refine interpretWazoMeetingName_yields.mono ?_
  rintro _ (rfl | ⟨name, rfl | ⟨exten, hexten, rfl⟩⟩)
  · exact hother
  · exact hother
  · exact .meeting h exten hexten

lemma forwardStep_interpretXivoOutcall (h : cel.eventtype = .xivoOutcall) :
    ForwardStep cel call.forwardFields (interpretXivoOutcall cel call).forwardFields := by
  rw [interpretXivoOutcall]
  split
  · exact .other (by simp [h])
  · exact .destination (.inr (.inr h)) _

lemma forwardStep_interpretRequestedInternal
    (h : cel.eventtype = .wazoCallLogRequestedInternal) :
    Yields (interpretWazoCallLogRequestedInternal x cel call) fun call' =>
      ForwardStep cel call.forwardFields call'.forwardFields := by
  unfold interpretWazoCallLogRequestedInternal
  refine .bind fun extra _ => ?_
  split
  · exact .pure (.other (by simp [h]))
  · exact .bind fun _ _ => .pure (.requested h _ _)

/-! ### Other events -/

/-- Every result of a handler has the fields of the call. -/
abbrev KeepsForward (call : RawCallLog) (m : Except PyError RawCallLog) : Prop :=
  Yields m fun call' => call'.forwardFields = call.forwardFields

lemma keepsForward_interpretMixmonitorStart :
    KeepsForward call (interpretMixmonitorStart x cel call) :=
  part_interpretMixmonitorStart fun _ _ => rfl

lemma keepsForward_interpretMixmonitorStop :
    KeepsForward call (interpretMixmonitorStop x cel call) :=
  part_interpretMixmonitorStop fun _ _ => rfl

lemma keepsForward_interpretXivoIncall : KeepsForward call (interpretXivoIncall x cel call) :=
  part_interpretXivoIncall fun _ _ _ => rfl

lemma keepsForward_interpretWazoConference :
    KeepsForward call (interpretWazoConference x cel call) :=
  part_interpretWazoConference fun _ _ => rfl

lemma keepsForward_interpretWazoUserMissedCall :
    KeepsForward call (interpretWazoUserMissedCall x cel call) :=
  part_interpretWazoUserMissedCall fun _ _ _ _ _ _ _ => rfl

lemma keepsForward_interpretWazoUserBlockedCall :
    KeepsForward call (interpretWazoUserBlockedCall x cel call) :=
  part_interpretWazoUserBlockedCall fun _ _ _ _ _ _ _ => rfl

lemma keepsForward_interpretWazoCallLogDestination :
    KeepsForward call (interpretWazoCallLogDestination x cel call) :=
  part_interpretWazoCallLogDestination fun _ _ _ _ _ _ => rfl

/-- The fields after an event of the caller's channel. -/
lemma forwardStep_interpretCel : Yields (interpretCel x cel call) fun call' =>
    ForwardStep cel call.forwardFields call'.forwardFields := by
  have hsame : ∀ {m : Except PyError RawCallLog}, cel.eventtype ≠ .xivoUserFwd →
      KeepsForward call m → Yields m fun call' =>
        ForwardStep cel call.forwardFields call'.forwardFields :=
    fun htype hm => hm.mono fun call' h => h ▸ .other htype
  rw [interpretCel]
  cases htype : cel.eventtype with
  | xivoUserFwd => exact forwardStep_interpretXivoUserFwd htype
  | chanStart => exact .ok (.destination (.inl htype) _)
  | xivoFromS => exact .ok (.destination (.inr (.inl htype)) _)
  | xivoOutcall => exact .ok (forwardStep_interpretXivoOutcall htype)
  | chanEnd => exact .ok (.chanEnd htype)
  | answer => exact .ok (forwardStep_interpretAnswer htype)
  | wazoMeetingName => exact forwardStep_interpretWazoMeetingName htype
  | wazoCallLogRequestedInternal => exact forwardStep_interpretRequestedInternal htype
  | appStart => exact hsame (by simp [htype]) (.ok forwardFields_interpretAppStart)
  | bridgeStart => exact hsame (by simp [htype]) (.bind fun _ _ => .pure rfl)
  | bridgeEnter => exact hsame (by simp [htype]) (.bind fun _ _ => .pure rfl)
  | mixmonitorStart => exact hsame (by simp [htype]) keepsForward_interpretMixmonitorStart
  | mixmonitorStop => exact hsame (by simp [htype]) keepsForward_interpretMixmonitorStop
  | xivoIncall => exact hsame (by simp [htype]) keepsForward_interpretXivoIncall
  | wazoConference => exact hsame (by simp [htype]) keepsForward_interpretWazoConference
  | wazoUserMissedCall => exact hsame (by simp [htype]) keepsForward_interpretWazoUserMissedCall
  | wazoUserBlockedCall => exact hsame (by simp [htype]) keepsForward_interpretWazoUserBlockedCall
  | wazoCallLogDestination =>
    exact hsame (by simp [htype]) keepsForward_interpretWazoCallLogDestination
  | _ => exact hsame (by simp [htype]) (.ok rfl)

end CallerCELInterpretor

/-! ### Runs -/

/-- What the events so far have made of the fields: the flag is down after the first forward,
which has said who was called; the last one has said where the call went, unless an event
after it says otherwise. -/
structure FollowsForwards (done : List CEL) (fields : ForwardFields) : Prop where
  shows : ∀ number, IsNumber number → number ∉ fields.extensionFilter.extensions
  pending : fields.interpretCallerXivoUserFwd = (forwards done).isEmpty
  requested : ∀ first ∈ (forwards done).head?, fields.requestedName = some first.name ∧
    fields.requestedInternalExten = some first.number ∧
    fields.requestedInternalContext = some first.context
  destination : ∀ last ∈ (forwards done).getLast?,
    (∀ cel ∈ afterLastForward done, ¬WritesDestination cel) →
      fields.destinationExten = some last.number

lemma ForwardFields.filter_number (hshows : ∀ number, IsNumber number →
      number ∉ fields.extensionFilter.extensions) (hnumber : IsNumber number) :
    fields.extensionFilter.filter (some number) = some number := if_neg (hshows number hnumber)

variable (done) in
lemma forwards_concat_of_none (h : readForward cel = none) :
    forwards (done ++ [cel]) = forwards done := by
  simp [forwards, List.filterMap_append, h]

variable (done) in
lemma forwards_concat_of_some (h : readForward cel = some forward) :
    forwards (done ++ [cel]) = forwards done ++ [forward] := by
  simp [forwards, List.filterMap_append, h]

lemma eventtype_of_readForward (h : readForward cel = some forward) :
    cel.eventtype = .xivoUserFwd := by
  by_contra hne
  rw [readForward_of_ne hne] at h
  cases h

/-- An event that is no forward keeps what the forwards have said, unless it writes a
destination. -/
lemma FollowsForwards.of_ne (h : FollowsForwards done fields) (hne : cel.eventtype ≠ .xivoUserFwd)
    (hshows : ∀ number, IsNumber number → number ∉ fields'.extensionFilter.extensions)
    (hpending : fields'.interpretCallerXivoUserFwd = fields.interpretCallerXivoUserFwd)
    (hrequested : ∀ first ∈ (forwards done).head?, fields'.requestedName = some first.name ∧
      fields'.requestedInternalExten = some first.number ∧
      fields'.requestedInternalContext = some first.context)
    (hdestination : ¬WritesDestination cel → ∀ last ∈ (forwards done).getLast?,
      fields.destinationExten = some last.number → fields'.destinationExten = some last.number) :
    FollowsForwards (done ++ [cel]) fields' := by
  have hnone := forwards_concat_of_none done (readForward_of_ne hne)
  have hafter : afterLastForward (done ++ [cel]) = afterLastForward done ++ [cel] :=
    List.rtakeWhile_concat_pos _ _ _ (by simpa using hne)
  refine ⟨hshows, ?_, ?_, ?_⟩
  · rw [hnone, hpending]
    exact h.pending
  · rw [hnone]
    exact hrequested
  · rw [hnone, hafter]
    intro last hlast hkept
    refine hdestination (hkept cel (by simp)) last hlast (h.destination last hlast ?_)
    exact fun cel' hcel' => hkept cel' (List.mem_append_left _ hcel')

/-- A forward says where the call went, and the first one who was called. -/
lemma FollowsForwards.forwarded (h : FollowsForwards done fields)
    (hforward : readForward cel = some forward) (hnumber : IsNumber forward.number) :
    FollowsForwards (done ++ [cel]) (fields.forwardTo forward) := by
  have hsome := forwards_concat_of_some done hforward
  have hfilter := ForwardFields.filter_number h.shows hnumber
  have hlast : ∀ last ∈ (forwards done ++ [forward]).getLast?, last = forward := by
    intro last hlast
    rw [List.getLast?_concat] at hlast
    exact (Option.some.inj hlast).symm
  cases hdone : forwards done with
  | nil =>
    have hfirst : fields.interpretCallerXivoUserFwd = true := by rw [h.pending, hdone]; rfl
    rw [ForwardFields.forwardTo_of_first hfirst]
    rw [hdone, List.nil_append] at hsome
    refine ⟨h.shows, by rw [hsome]; rfl, ?_, ?_⟩
    · rw [hsome]
      intro first hfirst
      obtain rfl := Option.some.inj hfirst
      exact ⟨rfl, hfilter, rfl⟩
    · rw [hsome]
      intro last hlast _
      obtain rfl := Option.some.inj hlast
      exact hfilter
  | cons first rest =>
    have hlater : fields.interpretCallerXivoUserFwd = false := by rw [h.pending, hdone]; rfl
    rw [ForwardFields.forwardTo_of_later hlater]
    refine ⟨h.shows, ?_, ?_, ?_⟩
    · rw [hsome, hdone]
      exact hlater
    · rw [hsome, hdone]
      have hrequested := h.requested
      rw [hdone] at hrequested
      exact hrequested
    · rw [hsome]
      intro last hmem _
      rw [hlast last hmem]
      exact hfilter

/-- What one event keeps. -/
lemma FollowsForwards.step (h : FollowsForwards done fields)
    (hnumber : ∀ forward ∈ forwards (done ++ [cel]), IsNumber forward.number)
    (hread : cel.eventtype = .xivoUserFwd → (readForward cel).isSome)
    (hrequested : cel.eventtype ≠ .wazoCallLogRequestedInternal)
    (hstep : ForwardStep cel fields fields') : FollowsForwards (done ++ [cel]) fields' := by
  have hdone : ∀ forward ∈ forwards done, IsNumber forward.number := by
    intro forward hforward
    refine hnumber forward ?_
    rw [forwards, List.filterMap_append]
    exact List.mem_append_left _ hforward
  cases hstep with
  | forward forward hforward =>
    refine h.forwarded hforward (hnumber forward ?_)
    simp [forwards_concat_of_some done hforward]
  | unread htype hnone =>
    have hsome := hread htype
    rw [hnone] at hsome
    cases hsome
  | chanEnd htype =>
    refine h.of_ne (by simp [htype]) h.shows rfl (fun first hfirst => ?_)
      fun _ last hlast hdestination => ?_
    · obtain ⟨hname, hexten, hcontext⟩ := h.requested first hfirst
      have hshown := ForwardFields.filter_number h.shows (hdone first (List.mem_of_head? hfirst))
      exact ⟨hname, by rw [hexten, hshown], hcontext⟩
    · have hshown := ForwardFields.filter_number h.shows (hdone last (List.mem_of_getLast? hlast))
      rw [hdestination, hshown]
  | answer htype hempty exten =>
    refine h.of_ne (by simp [htype]) h.shows rfl h.requested fun _ last hlast hdestination => ?_
    -- the number of the last forward is not empty
    have hne := (hdone last (List.mem_of_getLast? hlast)).1
    rw [hdestination] at hempty
    simp [truthy, hne] at hempty
  | meeting htype exten hexten =>
    refine h.of_ne (by simp [htype]) (fun number hnumber hmem => ?_) rfl h.requested
      fun _ _ _ hdestination => hdestination
    rcases Finset.mem_insert.1 hmem with rfl | hmem
    · exact not_isNumber_of_meeting hexten hnumber
    · exact h.shows number hnumber hmem
  | destination hwrites exten =>
    have hne : cel.eventtype ≠ .xivoUserFwd := by
      rcases hwrites with htype | htype | htype <;> simp [htype]
    exact h.of_ne hne h.shows rfl h.requested fun hnone => absurd hwrites hnone
  | requested htype exten context => exact absurd htype hrequested
  | other hne => exact h.of_ne hne h.shows rfl h.requested fun _ _ _ hdestination => hdestination

/-- Nothing is said of a new call log. -/
lemma followsForwards_newCallLog (linkedids : Finset String) (cels : List CEL) :
    FollowsForwards [] (newCallLog linkedids cels).forwardFields where
  shows := by
    rintro number hnumber hmem
    obtain rfl := Finset.mem_singleton.1 hmem
    exact not_isNumber_s hnumber
  pending := rfl
  requested := by simp [forwards]
  destination := by simp [forwards]

/-- What the events of a caller keep. -/
lemma followsForwards_interpretCels {linkedids : Finset String} {all : List CEL}
    (hread : ∀ cel ∈ cels, cel.eventtype = .xivoUserFwd →
      ∃ forward, readForward cel = some forward ∧ IsNumber forward.number)
    (hrequested : ∀ cel ∈ cels, cel.eventtype ≠ .wazoCallLogRequestedInternal) :
    Yields (CallerCELInterpretor.interpretCels x cels (newCallLog linkedids all)) fun call' =>
      FollowsForwards cels call'.forwardFields := by
  induction cels using List.reverseRecOn with
  | nil => exact .pure (followsForwards_newCallLog linkedids all)
  | append_singleton done cel ih =>
    have hnumber : ∀ forward ∈ forwards (done ++ [cel]), IsNumber forward.number := by
      intro forward hforward
      obtain ⟨cel', hmem, hcel'⟩ := List.mem_filterMap.1 hforward
      obtain ⟨forward', hread', hnumber⟩ :=
        hread cel' hmem (eventtype_of_readForward hcel')
      exact Option.some.inj (hread'.symm.trans hcel') ▸ hnumber
    have hlast : cel ∈ done ++ [cel] := by simp
    intro call' hcall'
    rw [CallerCELInterpretor.interpretCels, interpretEach, List.foldlM_append] at hcall'
    obtain ⟨call₁, hdone, hcall'⟩ := exists_of_bind_eq_ok hcall'
    rw [List.foldlM_cons] at hcall'
    obtain ⟨call₂, hcel, hcall'⟩ := exists_of_bind_eq_ok hcall'
    obtain rfl := Except.ok.inj hcall'
    have hkeeps := ih (fun cel' h => hread cel' (List.mem_append_left _ h))
      (fun cel' h => hrequested cel' (List.mem_append_left _ h)) call₁ hdone
    refine hkeeps.step hnumber (fun htype => ?_) (hrequested cel hlast)
      (CallerCELInterpretor.forwardStep_interpretCel call₂ hcel)
    obtain ⟨forward, hforward, -⟩ := hread cel hlast htype
    exact Option.isSome_of_eq_some hforward

/-- However often a call is forwarded, the first forward says who was called and the last one
where the call went. -/
theorem CallerCELInterpretor.interpretCels_chainedForwards {linkedids : Finset String}
    {all : List CEL} {call' : RawCallLog}
    (hforwarded : ∃ cel ∈ cels, cel.eventtype = .xivoUserFwd)
    (hread : ∀ cel ∈ cels, cel.eventtype = .xivoUserFwd →
      ∃ forward, readForward cel = some forward ∧ IsNumber forward.number)
    (hrequested : ∀ cel ∈ cels, cel.eventtype ≠ .wazoCallLogRequestedInternal)
    (hafter : ∀ cel ∈ afterLastForward cels, ¬WritesDestination cel)
    (hrun : interpretCels x cels (newCallLog linkedids all) = .ok call') :
    ∃ first last, (forwards cels).head? = some first ∧ (forwards cels).getLast? = some last ∧
      call'.requestedName = some first.name ∧
      call'.requestedInternalExten = some first.number ∧
      call'.requestedInternalContext = some first.context ∧
      call'.destinationExten = some last.number := by
  obtain ⟨cel, hcel, htype⟩ := hforwarded
  obtain ⟨forward, hforward, -⟩ := hread cel hcel htype
  have hne : forwards cels ≠ [] := List.ne_nil_of_mem (List.mem_filterMap.2 ⟨cel, hcel, hforward⟩)
  have hfollows := followsForwards_interpretCels hread hrequested call' hrun
  have hhead := List.head?_eq_some_head hne
  have hlast := List.getLast?_eq_some_getLast hne
  obtain ⟨hname, hexten, hcontext⟩ := hfollows.requested _ hhead
  exact ⟨_, _, hhead, hlast, hname, hexten, hcontext, hfollows.destination _ hlast hafter⟩

/-- An event that forwards a call to a user. -/
def forwardEventTo (id : ℕ) (number name : String) : CEL :=
  { plainEvent id "1.1" "PJSIP/alice-00000001" .xivoUserFwd with
    extra := some ("\x7b\"extra\":\"NUM:" ++ number ++ ",CONTEXT:internal,NAME:" ++ name ++
      "\"\x7d") }

/-- A call to Bob, who forwards it to Carol, where it is answered. -/
def twiceForwarded : List CEL :=
  [plainEvent 1 "1.1" "PJSIP/alice-00000001" .chanStart, forwardEventTo 2 "101" "Bob",
   plainEvent 3 "1.1" "PJSIP/alice-00000001" .answer, forwardEventTo 4 "102" "Carol",
   plainEvent 5 "1.1" "PJSIP/alice-00000001" .answer,
   plainEvent 6 "1.1" "PJSIP/alice-00000001" .chanEnd]

lemma readForward_twiceForwarded : ∀ cel ∈ twiceForwarded, cel.eventtype = .xivoUserFwd →
    ∃ forward, readForward cel = some forward ∧ IsNumber forward.number := by
  have hread : ∀ cel ∈ twiceForwarded, cel.eventtype = .xivoUserFwd →
      (readForward cel).any (fun forward => forward.number ≠ "" ∧
        ∀ c ∈ forward.number.toList, c.isDigit = true) = true := by
    decide +kernel
  intro cel hcel htype
  obtain ⟨forward, hforward, hnumber⟩ := (Option.any_eq_true _ _).1 (hread cel hcel htype)
  obtain ⟨hne, hdigits⟩ := of_decide_eq_true hnumber
  exact ⟨forward, hforward, isNumber_of_isDigit hne hdigits⟩

theorem interpretCels_twiceForwarded : ∃ call',
    CallerCELInterpretor.interpretCels .ascii twiceForwarded
        (newCallLog {"1.1"} twiceForwarded) = .ok call' ∧
      call'.requestedName = some "Bob" ∧ call'.requestedInternalExten = some "101" ∧
      call'.requestedInternalContext = some "internal" ∧ call'.destinationExten = some "102" := by
  obtain ⟨call', hcall', -⟩ := exists_of_map_eq_ok (g := fun call : RawCallLog => call.blocked)
    (c := false) (m := CallerCELInterpretor.interpretCels .ascii twiceForwarded
      (newCallLog {"1.1"} twiceForwarded)) (by decide +kernel)
  obtain ⟨first, last, hfirst, hlast, hname, hexten, hcontext, hdestination⟩ :=
    CallerCELInterpretor.interpretCels_chainedForwards
      ⟨forwardEventTo 2 "101" "Bob", by simp [twiceForwarded], rfl⟩ readForward_twiceForwarded
      (by decide) (by decide +kernel) hcall'
  obtain rfl : ⟨"101", "internal", "Bob"⟩ = first :=
    Option.some.inj (.trans (by decide +kernel) hfirst)
  obtain rfl : ⟨"102", "internal", "Carol"⟩ = last :=
    Option.some.inj (.trans (by decide +kernel) hlast)
  exact ⟨call', hcall', hname, hexten, hcontext, hdestination⟩

end CallLogd
