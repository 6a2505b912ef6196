/-
What the callees' events do to a destination that is authoritative.

All the writes of the destination but one are guarded: a channel that starts in an
outbound call empties its name.
-/
import CallLogd.Interpretor.Parts

namespace CallLogd

open Results

/-- The destination of a call, and what its writers look at. -/
structure DestinationState where
  name : Json
  exten : Option String
  direction : Direction
  authoritative : Bool
  wasForwarded : Bool

def RawCallLog.destination (call : RawCallLog) : DestinationState where
  name := call.destinationName
  exten := call.destinationExten
  direction := call.direction
  authoritative := call.authoritativeDestinationInfo
  wasForwarded := call.wasForwarded

namespace CalleeCELInterpretor

variable {x : Externals} {cel : CEL} {call call' : RawCallLog}

/-! ### One event -/

lemma destination_interpretInternalChanStart (hcall : call.authoritativeDestinationInfo = true) :
    (interpretInternalChanStart cel call).destination = call.destination := by
  have hset : ∀ c : RawCallLog, c.authoritativeDestinationInfo = true →
      (setDestination cel c).destination = c.destination := by
    intro c hc
    rw [setDestination, if_pos hc]
  rw [interpretInternalChanStart]
  split
  · rfl
  · split
    · exact hset _ hcall
    · exact hset _ hcall

/-- Only a channel that starts in an outbound call is not guarded. -/
def startedDestination (d : DestinationState) : DestinationState :=
  if d.direction = .outbound then { d with name := .str "" } else d

lemma destination_interpretChanStart (hcall : call.authoritativeDestinationInfo = true) :
    (interpretChanStart x cel call).destination = startedDestination call.destination := by
  have hparticipant : ∀ c : RawCallLog, (c.updateParticipant cel.channame fun p =>
      { p with role := some .destination }).destination = c.destination := fun _ => rfl
  rw [interpretChanStart, hparticipant]
  split
  · next hdirection => exact (if_pos hdirection).symm
  · next hdirection =>
    rw [destination_interpretInternalChanStart (by exact hcall)]
    exact (if_neg hdirection).symm

lemma destination_interpretBridgeEnter (hcall : call.authoritativeDestinationInfo = true)
    (hforwarded : call.wasForwarded = false) : Yields (interpretBridgeEnter x cel call) fun call' =>
      call'.destination = call.destination := by
  have hbridge : setDestinationFromFirstBridge cel (call.updateParticipant cel.channame fun p =>
      { p with answered := some true }) =
        call.updateParticipant cel.channame fun p => { p with answered := some true } := by
    refine if_neg ?_
    rintro ⟨-, hguard⟩
    simp [RawCallLog.updateParticipant, hcall, hforwarded] at hguard
  rw [interpretBridgeEnter]
  refine .bind fun _ _ => ?_
  dsimp only
  rw [hbridge]
  split
  · exact .pure rfl
  · rw [if_pos (by exact hcall)]
    exact .pure rfl

lemma destination_interpretMixmonitorStart :
    Yields (interpretMixmonitorStart x cel call) fun call' =>
      call'.destination = call.destination :=
  part_interpretMixmonitorStart fun _ _ => rfl

lemma destination_interpretMixmonitorStop : Yields (interpretMixmonitorStop x cel call) fun call' =>
    call'.destination = call.destination :=
  CallerCELInterpretor.part_interpretMixmonitorStop fun _ _ => rfl

lemma destination_interpretRequestedInternal :
    Yields (interpretRequestedInternal x cel call) fun call' =>
      call'.destination = call.destination :=
  part_interpretRequestedInternal fun _ _ _ _ => rfl

/-- What an event makes of the destination. -/
lemma destination_interpretCel (hcall : call.authoritativeDestinationInfo = true)
    (hforwarded : call.wasForwarded = false) : Yields (interpretCel x cel call) fun call' =>
      call'.destination =
        if cel.eventtype = .chanStart then startedDestination call.destination
        else call.destination := by
  by_cases hstart : cel.eventtype = .chanStart
  · rw [if_pos hstart, interpretCel, hstart]
    exact .ok (destination_interpretChanStart hcall)
  · rw [if_neg hstart, interpretCel]
    split
    · next htype => exact absurd htype hstart
    · exact .ok rfl
    · exact .ok (part_interpretVoicemailAppStart fun _ _ _ _ => rfl)
    · exact destination_interpretBridgeEnter hcall hforwarded
    · exact destination_interpretBridgeEnter hcall hforwarded
    · exact destination_interpretMixmonitorStart
    · exact destination_interpretMixmonitorStop
    · exact destination_interpretRequestedInternal
    · exact .ok rfl

/-! ### A run -/

/-- The destination after the events: the first start of a channel is the only one that
can make a difference. -/
lemma destination_interpretCels (hcall : call.authoritativeDestinationInfo = true)
    (hforwarded : call.wasForwarded = false) (cels : List CEL) :
    Yields (interpretCels x cels call) fun call' =>
      call'.destination =
        if ∃ cel ∈ cels, cel.eventtype = .chanStart then startedDestination call.destination
        else call.destination := by
  refine .foldlM (P := fun done (call' : RawCallLog) => call'.destination =
    if ∃ cel ∈ done, cel.eventtype = .chanStart then startedDestination call.destination
    else call.destination) (s := call) (by simp) (fun done state cel hstate => ?_) cels
  -- starting twice is the same as starting once
  have htwice : startedDestination (startedDestination call.destination) =
      startedDestination call.destination := by
    simp only [startedDestination]
    split <;> simp [*]
  have hguards : state.destination.authoritative = true ∧
      state.destination.wasForwarded = false := by
    rw [hstate, startedDestination]
    split <;> (try split) <;> exact ⟨hcall, hforwarded⟩
  refine (destination_interpretCel hguards.1 hguards.2).mono fun call' hcall' => ?_
  have hsplit : (∃ c ∈ done ++ [cel], c.eventtype = .chanStart) ↔
      (∃ c ∈ done, c.eventtype = .chanStart) ∨ cel.eventtype = .chanStart := by
    simp [or_and_right, exists_or]
  rw [hcall', hstate]
  simp only [hsplit]
  by_cases hdone : ∃ c ∈ done, c.eventtype = .chanStart <;>
    by_cases hcel : cel.eventtype = .chanStart <;> simp [hdone, hcel, htwice]

/-- The events of the callees leave an authoritative destination as it is if and only if the
call is not outbound, no channel starts, or there is no name to lose. -/
theorem destination_kept_iff (x : Externals) (cels : List CEL) (call call' : RawCallLog)
    (hcall : call.authoritativeDestinationInfo = true) (hforwarded : call.wasForwarded = false)
    (h : interpretCels x cels call = .ok call') :
    (call'.destinationName = call.destinationName ∧
        call'.destinationExten = call.destinationExten) ↔
      call.direction ≠ .outbound ∨ (∀ cel ∈ cels, cel.eventtype ≠ .chanStart) ∨
        call.destinationName = .str "" := by
  have hname : call'.destinationName = (call'.destination).name := rfl
  have hexten : call'.destinationExten = (call'.destination).exten := rfl
  rw [hname, hexten, destination_interpretCels hcall hforwarded cels call' h]
  by_cases hstarts : ∃ cel ∈ cels, cel.eventtype = .chanStart
  · have hstarts' : ¬ ∀ cel ∈ cels, cel.eventtype ≠ .chanStart := by simpa using hstarts
    rw [if_pos hstarts, startedDestination]
    by_cases hdirection : call.destination.direction = .outbound
    · rw [if_pos hdirection]
      have hdirection' : call.direction = .outbound := hdirection
      simp only [hdirection', hstarts', ne_eq, not_true_eq_false, false_or]
      exact ⟨fun h => h.1.symm, fun h => ⟨h.symm, rfl⟩⟩
    · rw [if_neg hdirection]
      exact ⟨fun _ => Or.inl hdirection, fun _ => ⟨rfl, rfl⟩⟩
  · have hstarts' : ∀ cel ∈ cels, cel.eventtype ≠ .chanStart := by simpa using hstarts
    rw [if_neg hstarts]
    exact ⟨fun _ => Or.inr (Or.inl hstarts'), fun _ => ⟨rfl, rfl⟩⟩

/-- The channel of a user starts. -/
def calleeStart : CEL where
  id := 2
  eventtype := .chanStart
  eventtime := 2
  cidName := "Bob"
  cidNum := "1002"
  channame := "PJSIP/bob-00000002"
  uniqueid := "1386184858.2"
  linkedid := "1386184858.1"

/-- A call to a group, as its events have told. -/
def callToGroup (direction : Direction) : RawCallLog where
  direction := direction
  destinationName := .str "sales"
  destinationExten := some "2000"
  authoritativeDestinationInfo := true

theorem destination_kept_internal : ∃ call',
    interpretCels .ascii [calleeStart] (callToGroup .internal) = .ok call' ∧
      call'.destinationName = .str "sales" ∧ call'.destinationExten = some "2000" :=
  ⟨_, rfl, (destination_kept_iff .ascii [calleeStart] (callToGroup .internal) _ rfl rfl rfl).2
    (Or.inl (by decide))⟩

/-- In an outbound call the name of the group is lost. -/
theorem destination_lost_outbound : ∃ call',
    interpretCels .ascii [calleeStart] (callToGroup .outbound) = .ok call' ∧
      (callToGroup .outbound).authoritativeDestinationInfo = true ∧
      (callToGroup .outbound).wasForwarded = false ∧
      call'.destinationName ≠ (callToGroup .outbound).destinationName := by
  refine ⟨_, rfl, rfl, rfl, ?_⟩
  decide

end CalleeCELInterpretor

end CallLogd
