/-
The table of the participants of a call.

The entry of a channel gets its role from a CHAN_START under its name, and a BRIDGE_ENTER
of a callee makes an entry for the name it has then.  So the table is well formed if the
names of the callees that enter bridges are those of channels that started.
-/
import CallLogd.Generator
import CallLogd.Interpretor.Marks
import CallLogd.Interpretor.Intervals

namespace CallLogd

open Results CallLogsGenerator

/-! ### Tables -/

/-- A table of the channels that started and of those that entered bridges: the entries
of the former have roles. -/
structure Tabled (started entered : List String) (d : Dict String RawParticipant) : Prop where
  name_iff : ∀ name, (∃ p ∈ d, p.1 = name) ↔ name ∈ started ∨ name ∈ entered
  role_iff : ∀ p ∈ d, p.2.role ≠ none ↔ p.1 ∈ started

namespace Tabled

variable {started entered peers : List String} {d : Dict String RawParticipant} {name : String}

lemma nil : Tabled [] [] [] := ⟨by simp, by simp⟩

/-- A channel starts, and gets a role. -/
lemma start (h : Tabled started entered d) (role : Role) : Tabled (started ++ [name]) entered
    (d.upsert name {} fun p => { p with role := some role }) := by
  refine ⟨fun name' => ?_, fun p hp => ?_⟩
  · rw [Dict.exists_mem_upsert, h.name_iff, List.mem_append, List.mem_singleton]
    tauto
  · rw [List.mem_append, List.mem_singleton]
    rcases Dict.mem_upsert.1 hp with ⟨hp, hname⟩ | ⟨q, -, -, rfl⟩ | ⟨-, rfl⟩
    · simp [h.role_iff p hp, hname]
    · simp
    · simp

variable (name) in
/-- A channel enters a bridge, which does not give it a role. -/
lemma enter (h : Tabled started entered d) : Tabled started (entered ++ [name])
    (d.upsert name {} fun p => { p with answered := some true }) := by
  refine ⟨fun name' => ?_, fun p hp => ?_⟩
  · rw [Dict.exists_mem_upsert, h.name_iff, List.mem_append, List.mem_singleton]
    tauto
  · rcases Dict.mem_upsert.1 hp with ⟨hp, -⟩ | ⟨q, hq, rfl, rfl⟩ | ⟨hnew, rfl⟩
    · exact h.role_iff p hp
    · exact h.role_iff q hq
    · have hname : name ∉ started := fun hname =>
        let ⟨q, hq, heq⟩ := (h.name_iff name).2 (.inl hname)
        hnew q hq heq
      simp [hname]

/-- The peers of a bridge have the roles that they had. -/
lemma answeredPeers (h : Tabled started entered d) :
    Tabled started entered (CalleeCELInterpretor.answeredPeers peers d) := by
  have hkeep : ∀ p : String × RawParticipant,
      (if peers.contains p.1 then (p.1, { p.2 with answered := some true }) else p).1 = p.1 ∧
      (if peers.contains p.1 then (p.1, { p.2 with answered := some true }) else p).2.role =
        p.2.role := by
    intro p
    split <;> exact ⟨rfl, rfl⟩
  refine ⟨fun name => ?_, fun p hp => ?_⟩
  · rw [← h.name_iff]
    simp only [CalleeCELInterpretor.answeredPeers, List.mem_map, exists_exists_and_eq_and]
    simp only [(hkeep _).1]
  · obtain ⟨q, hq, rfl⟩ := List.mem_map.1 hp
    rw [(hkeep q).1, (hkeep q).2]
    exact h.role_iff q hq

/-- All the entries have roles if the channels that entered bridges have started. -/
lemma roles_iff (h : Tabled started entered d) :
    (∀ p ∈ d, p.2.role ≠ none) ↔ entered ⊆ started := by
  constructor
  · intro hroles name hname
    obtain ⟨p, hp, rfl⟩ := (h.name_iff name).2 (.inr hname)
    exact (h.role_iff p hp).1 (hroles p hp)
  · intro hsub p hp
    refine (h.role_iff p hp).2 ?_
    exact ((h.name_iff p.1).1 ⟨p, hp, rfl⟩).elim id fun hname => hsub hname

end Tabled

/-! ### Names -/

/-- The names under which the channels start. -/
def startedNames (cels : List CEL) : List String :=
  (cels.filter fun cel => cel.eventtype = .chanStart).map (·.channame)

/-- The names under which the channels enter bridges. -/
def bridgedNames (cels : List CEL) : List String :=
  (cels.filter fun cel => cel.eventtype = .bridgeStart ∨ cel.eventtype = .bridgeEnter).map
    (·.channame)

variable {cels done : List CEL} {cel : CEL} {marks marks' : CallMarks} {x : Externals}
  {call call' : RawCallLog} {started entered : List String}

lemma startedNames_append :
    startedNames (done ++ cels) = startedNames done ++ startedNames cels := by
  simp [startedNames]

lemma bridgedNames_append :
    bridgedNames (done ++ cels) = bridgedNames done ++ bridgedNames cels := by
  simp [bridgedNames]

lemma startedNames_singleton (h : cel.eventtype = .chanStart) :
    startedNames [cel] = [cel.channame] := by
  simp [startedNames, h]

lemma startedNames_singleton_of_ne (h : cel.eventtype ≠ .chanStart) : startedNames [cel] = [] := by
  simp [startedNames, h]

lemma bridgedNames_singleton (h : cel.eventtype = .bridgeStart ∨ cel.eventtype = .bridgeEnter) :
    bridgedNames [cel] = [cel.channame] := by
  simp [bridgedNames, h]

lemma bridgedNames_singleton_of_ne (hstart : cel.eventtype ≠ .bridgeStart)
    (henter : cel.eventtype ≠ .bridgeEnter) : bridgedNames [cel] = [] := by
  simp [bridgedNames, hstart, henter]

/-! ### Passes -/

/-- An event of the caller's channel makes an entry if the channel starts. -/
lemma Tabled.caller_step (h : Tabled (startedNames done) [] marks.rawParticipants)
    (hstep : CallerMarks cel marks marks') :
    Tabled (startedNames (done ++ [cel])) [] marks'.rawParticipants := by
  have hkeep : cel.eventtype ≠ .chanStart →
      Tabled (startedNames (done ++ [cel])) [] marks.rawParticipants := by
    intro hne
    rwa [startedNames_append, startedNames_singleton_of_ne hne, List.append_nil]
  cases hstep with
  | chanStart htype =>
    rw [startedNames_append, startedNames_singleton htype]
    exact h.start .source
  | chanEnd htype => exact hkeep (by simp [htype])
  | bridge htype =>
    refine hkeep ?_
    rcases htype with htype | htype <;> simp [htype]
  | meeting exten htype _ => exact hkeep (by simp [htype])
  | other hstart _ => exact hkeep hstart

lemma tabled_caller (hcall : call.rawParticipants = []) :
    Yields (CallerCELInterpretor.interpretCels x cels call) fun call' =>
      Tabled (startedNames cels) [] call'.rawParticipants :=
  .foldlM
    (P := fun done (call' : RawCallLog) => Tabled (startedNames done) [] call'.rawParticipants)
    (hcall ▸ .nil)
    (fun _ _ _ hdone =>
      CallerCELInterpretor.marks_interpretCel.mono fun _ hstep => hdone.caller_step hstep) cels

/-- The caller has no caller id in the table. -/
lemma callerIds_caller (hcall : call.callerIdByChannels = []) :
    Yields (CallerCELInterpretor.interpretCels x cels call) fun call' =>
      call'.callerIdByChannels = [] := by
  refine .foldlM (P := fun _ (call' : RawCallLog) => call'.callerIdByChannels = []) hcall
    (fun _ c cel hc => CallerCELInterpretor.marks_interpretCel.mono fun c' hstep => ?_) cels
  have hkeep : ∀ {marks marks' : CallMarks}, CallerMarks cel marks marks' →
      marks'.callerIdByChannels = marks.callerIdByChannels := by
    intro marks marks' hstep
    cases hstep <;> rfl
  exact (hkeep hstep).trans hc

/-- What the callees' events have made of the tables. -/
structure CallMarks.Called (started done : List String) (entered : List String)
    (marks : CallMarks) : Prop where
  tabled : Tabled (started ++ done) entered marks.rawParticipants
  callerIds : ∀ name, (marks.callerIdByChannels.get? name).isSome ↔ name ∈ done

/-- An event of a callee's channel makes entries if the channel starts or enters a
bridge. -/
lemma CallMarks.Called.step
    (h : marks.Called started (startedNames done) (bridgedNames done)) :
    (CalleeCELInterpretor.calleeMarks cel marks).Called started (startedNames (done ++ [cel]))
      (bridgedNames (done ++ [cel])) := by
  rw [startedNames_append, bridgedNames_append]
  have hbridged : cel.eventtype = .bridgeStart ∨ cel.eventtype = .bridgeEnter →
      (CalleeCELInterpretor.bridgedMarks cel marks).Called started
        (startedNames done ++ startedNames [cel]) (bridgedNames done ++ bridgedNames [cel]) := by
    intro htype
    have hne : cel.eventtype ≠ .chanStart := by
      rintro hne
      simp [hne] at htype
    rw [startedNames_singleton_of_ne hne, List.append_nil, bridgedNames_singleton htype]
    refine ⟨?_, h.callerIds⟩
    have henter := h.tabled.enter cel.channame
    rw [CalleeCELInterpretor.bridgedMarks]
    dsimp only
    split
    · exact henter
    · exact henter.answeredPeers
  have hkeep : cel.eventtype ≠ .chanStart → cel.eventtype ≠ .bridgeStart →
      cel.eventtype ≠ .bridgeEnter → marks.Called started
        (startedNames done ++ startedNames [cel]) (bridgedNames done ++ bridgedNames [cel]) := by
    intro hne hstart henter
    rwa [startedNames_singleton_of_ne hne, bridgedNames_singleton_of_ne hstart henter,
      List.append_nil, List.append_nil]
  rw [CalleeCELInterpretor.calleeMarks]
  split
  · next htype =>
    rw [startedNames_singleton htype,
      bridgedNames_singleton_of_ne (by simp [htype]) (by simp [htype]), List.append_nil]
    refine ⟨?_, fun name => ?_⟩
    · rw [← List.append_assoc]
      exact h.tabled.start .destination
    · rw [CalleeCELInterpretor.startedMarks, Dict.get?_set, List.mem_append, List.mem_singleton]
      split
      · next hname => simp [hname]
      · next hname => simp [h.callerIds, hname]
  · next htype => exact hbridged (.inl htype)
  · next htype => exact hbridged (.inr htype)
  · next hne hstart henter => exact hkeep hne hstart henter

lemma called_callee (h : call.marks.Called started [] []) :
    Yields (CalleeCELInterpretor.interpretCels x cels call) fun call' =>
      call'.marks.Called started (startedNames cels) (bridgedNames cels) := by
  refine .foldlM (P := fun done (call' : RawCallLog) =>
    call'.marks.Called started (startedNames done) (bridgedNames done)) h
    (fun _ c cel hc => CalleeCELInterpretor.marks_interpretCel.mono fun c' hmarks => ?_) cels
  rw [hmarks]
  exact hc.step

/-! ### Lookups -/

/-- The handler of a callee's bridge looks up the caller id of the channel. -/
def LooksUp (x : Externals) (cel : CEL) (call : RawCallLog) : Prop :=
  (cel.eventtype = .bridgeStart ∨ cel.eventtype = .bridgeEnter) ∧
    (∃ bridge, celBridge x cel = .ok bridge) ∧ cel.peer ≠ "" ∧
    call.authoritativeDestinationInfo = false

namespace DispatchCELInterpretor

/-- The names of the callees that enter bridges are those of channels that start, and the
names whose caller ids are looked up are those of callees that have started. -/
structure NamesStarted (x : Externals) (cels : List CEL) (call : RawCallLog) : Prop where
  bridges : (∃ call', interpretCels x cels call = .ok call') →
    bridgedNames (splitCallerCalleeCels cels).2 ⊆
      startedNames (splitCallerCalleeCels cels).1 ++ startedNames (splitCallerCalleeCels cels).2
  lookups : ∀ done cel rest state, (splitCallerCalleeCels cels).2 = done ++ cel :: rest →
    Reaches x cels call done state → LooksUp x cel state → cel.channame ∈ startedNames done

lemma called_of_reaches {linkedids : Finset String} {state : RawCallLog}
    (h : Reaches x cels (newCallLog linkedids cels) done state) :
    state.marks.Called (startedNames (splitCallerCalleeCels cels).1) (startedNames done)
      (bridgedNames done) := by
  obtain ⟨call₁, hcaller, hcallee⟩ := h
  refine called_callee ⟨?_, fun name => ?_⟩ state hcallee
  · rw [List.append_nil]
    exact tabled_caller rfl call₁ hcaller
  · have hnone : call₁.callerIdByChannels = [] := callerIds_caller rfl call₁ hcaller
    simp [RawCallLog.marks, hnone, Dict.get?]

end DispatchCELInterpretor

/-- Every entry of the table has a role, and every name whose caller id is looked up has
one. -/
structure CELInterpretor.TableWellFormed (x : Externals) (cels : List CEL) (call : RawCallLog)
    (interpretor : CELInterpretor) : Prop where
  roles : ∀ call', interpretor.interpretCels x cels call = .ok call' →
    ∀ p ∈ call'.rawParticipants, p.2.role ≠ none
  callerIds : interpretor = .dispatch → ∀ done cel rest state,
    (DispatchCELInterpretor.splitCallerCalleeCels cels).2 = done ++ cel :: rest →
      DispatchCELInterpretor.Reaches x cels call done state → LooksUp x cel state →
        (state.callerIdByChannels.get? cel.channame).isSome

/-! ### An originated call -/

namespace LocalOriginateCELInterpretor

/-- All the entries of the table have roles. -/
def AllRoles (call : RawCallLog) : Prop := ∀ p ∈ call.rawParticipants, p.2.role ≠ none

lemma allRoles_of_upsert (hcall : AllRoles call) (name : String)
    (f : RawParticipant → RawParticipant)
    (h : call'.rawParticipants = call.rawParticipants.upsert name {} f)
    (hf : ∀ p, (f p).role ≠ none) : AllRoles call' := by
  intro p hp
  rw [h] at hp
  rcases Dict.mem_upsert.1 hp with ⟨hp, -⟩ | ⟨q, -, -, rfl⟩ | ⟨-, rfl⟩
  · exact hcall p hp
  · exact hf _
  · exact hf _

lemma allRoles_of_core (h : call'.core = call.core) (hcall : AllRoles call) : AllRoles call' := by
  have htable : call'.rawParticipants = call.rawParticipants :=
    congrArg (fun core => core.2.rawParticipants) h
  rwa [AllRoles, htable]

lemma allRoles_setDestination {ev : StartingEvents} (hcall : AllRoles call)
    (h : setDestination x cels ev call = some call') : AllRoles call' := by
  rw [setDestination] at h
  split at h
  · exact Option.some.inj h ▸ hcall
  · simp only [Option.bind_eq_bind, Option.bind_eq_some_iff, Option.some.injEq] at h
    obtain ⟨answer, -, bridge, -, rfl⟩ := h
    exact allRoles_of_upsert hcall answer.channame (fun p => { p with role := some .destination })
      rfl fun _ => Option.some_ne_none _

lemma allRoles_setOriginateAllLines (hcall : AllRoles call) :
    Yields (setOriginateAllLines x cels call) AllRoles := by
  rw [setOriginateAllLines]
  split
  · exact .pure hcall
  · next cel _ =>
    refine .bind fun found _ => ?_
    split
    · exact .pure hcall
    · next info _ =>
      refine .pure (allRoles_of_core (core_insertOrUpdateParticipantsInfo _ _) ?_)
      have htenant := allRoles_of_core (core_setTenantUuid info.tenantUuid) hcall
      exact allRoles_of_upsert htenant cel.channame
        (fun p => { p with role := some .source, requested := some false }) rfl
        fun _ => Option.some_ne_none _

/-- The channels of an originated call get roles. -/
lemma allRoles_interpretCels (hcall : AllRoles call) :
    Yields (interpretCels x cels call) AllRoles := by
  rw [interpretCels]
  split
  · exact .pure hcall
  · next ev _ =>
    have hsource : AllRoles (setSource x ev call) :=
      allRoles_of_upsert hcall ev.sourceChannelAnswer.channame
        (fun p => { p with role := some .source }) rfl fun _ => Option.some_ne_none _
    refine .bind fun flow _ => ?_
    split
    · exact .pure hsource
    · dsimp only
      split
      · exact .pure (allRoles_of_core (core_setUserFieldAndVoicemail cels ev) hsource)
      · next call₁ hdestination =>
        have hcall₁ : AllRoles call₁ := by
          refine allRoles_setDestination ?_ hdestination
          exact allRoles_of_core (core_setUserFieldAndVoicemail cels ev) hsource
        exact allRoles_setOriginateAllLines hcall₁

end LocalOriginateCELInterpretor

/-! ### Interpretors -/

/-- The table is well formed if, and only if, the callees of a dispatched call start under
the names under which they enter bridges. -/
theorem tableWellFormed_iff (x : Externals) (interpretor : CELInterpretor) (cels : List CEL)
    (linkedids : Finset String) :
    interpretor.TableWellFormed x cels (newCallLog linkedids cels) ↔
      (interpretor = .dispatch →
        DispatchCELInterpretor.NamesStarted x cels (newCallLog linkedids cels)) := by
  cases interpretor with
  | localOriginate =>
    refine ⟨fun _ h => (by cases h), fun _ => ⟨fun call' h => ?_, fun h => (by cases h)⟩⟩
    have hroles : LocalOriginateCELInterpretor.AllRoles (newCallLog linkedids cels) :=
      fun p hp => absurd hp List.not_mem_nil
    exact LocalOriginateCELInterpretor.allRoles_interpretCels hroles call' h
  | dispatch =>
    have hroles : ∀ call', DispatchCELInterpretor.interpretCels x cels
        (newCallLog linkedids cels) = .ok call' → ((∀ p ∈ call'.rawParticipants, p.2.role ≠ none) ↔
          bridgedNames (DispatchCELInterpretor.splitCallerCalleeCels cels).2 ⊆
            startedNames (DispatchCELInterpretor.splitCallerCalleeCels cels).1 ++
              startedNames (DispatchCELInterpretor.splitCallerCalleeCels cels).2) := by
      intro call' h
      have hcalled := DispatchCELInterpretor.called_of_reaches
        (DispatchCELInterpretor.reaches_of_interpretCels h)
      exact hcalled.tabled.roles_iff
    constructor
    · refine fun h _ => ⟨?_, fun done cel rest state hsplit hreaches hlookup => ?_⟩
      · rintro ⟨call', hcall'⟩
        exact (hroles call' hcall').1 (h.roles call' hcall')
      · refine ((DispatchCELInterpretor.called_of_reaches hreaches).callerIds _).1 ?_
        exact h.callerIds rfl done cel rest state hsplit hreaches hlookup
    · intro h
      refine ⟨fun call' hcall' => (hroles call' hcall').2 ((h rfl).bridges ⟨call', hcall'⟩),
        fun _ done cel rest state hsplit hreaches hlookup => ?_⟩
      refine ((DispatchCELInterpretor.called_of_reaches hreaches).callerIds _).2 ?_
      exact (h rfl).lookups done cel rest state hsplit hreaches hlookup

/-- The channel of the callee is renamed before it enters a bridge. -/
def renamedCall : List CEL :=
  [plainEvent 1 "1.1" "PJSIP/alice-00000001" .chanStart,
   plainEvent 2 "1.2" "PJSIP/bob-00000002" .chanStart,
   plainEvent 3 "1.2" "PJSIP/carol-00000003" .bridgeEnter]

/-- The new name has no role. -/
theorem renamedCall_not_wellFormed :
    getInterpretor renamedCall = .dispatch ∧
      ¬ CELInterpretor.TableWellFormed .ascii renamedCall (newCallLog {"1.1"} renamedCall)
        .dispatch := by
  have hrun : ∃ call, DispatchCELInterpretor.interpretCels .ascii renamedCall
      (newCallLog {"1.1"} renamedCall) = .ok call ∧ call.rawParticipants =
        [("PJSIP/alice-00000001", { role := some .source }),
          ("PJSIP/bob-00000002", { role := some .destination }),
          ("PJSIP/carol-00000003", { answered := some true })] :=
    exists_of_map_eq_ok (by decide +kernel)
  obtain ⟨call, hcall, htable⟩ := hrun
  refine ⟨by decide +kernel, fun h => ?_⟩
  refine h.roles call hcall ("PJSIP/carol-00000003", { answered := some true }) ?_ rfl
  rw [htable]
  simp

end CallLogd
