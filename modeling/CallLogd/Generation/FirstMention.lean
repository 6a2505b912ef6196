/-
The mention of the user who was requested.

The requested type is set once, by the first event that names a destination; only that
event can mention a user with a request, and what comes later finds the type set.
-/
import CallLogd.Generator
import CallLogd.Interpretor.Intervals
import CallLogd.Interpretor.Mentions
import CallLogd.Lib.LastWrite

namespace CallLogd

open Results CallLogsGenerator

variable {x : Externals} {cels : List CEL} {cel : CEL} {call state : RawCallLog} {i : ℕ}
  {info : ParticipantsInfo}

/-! ### The caller -/

namespace CallerCELInterpretor

/-- The first event that gives the call a requested type adds an entry for a user. -/
inductive Creates (x : Externals) (cels : List CEL) (call : RawCallLog) :
    ℕ → ParticipantsInfo → Prop
  | intro {before after : List CEL} {cel : CEL} {pre post : RawCallLog} {info : ParticipantsInfo}
      (hcels : cels = before ++ cel :: after)
      (hcel : cel.eventtype = .wazoCallLogDestination)
      (hpre : interpretCels x before call = .ok pre)
      (huntyped : truthy pre.requestedType = false)
      (hpost : interpretCel x cel pre = .ok post)
      (htyped : truthy post.requestedType = true)
      (hinfos : post.participantsInfo = pre.participantsInfo ++ [info]) :
      Creates x cels call pre.participantsInfo.length info

/-- What one more event creates. -/
lemma creates_concat_iff (hstate : interpretCels x cels call = .ok state) :
    Creates x (cels ++ [cel]) call i info ↔ Creates x cels call i info ∨
      cel.eventtype = .wazoCallLogDestination ∧ truthy state.requestedType = false ∧
        i = state.participantsInfo.length ∧ ∃ post, interpretCel x cel state = .ok post ∧
          truthy post.requestedType = true ∧
          post.participantsInfo = state.participantsInfo ++ [info] := by
  constructor
  · rintro ⟨hcels, hcel, hpre, huntyped, hpost, htyped, hinfos⟩
    rcases LastWrite.append_singleton_eq_iff.1 hcels with ⟨-, rfl, rfl⟩ | ⟨after, -, rfl⟩
    · obtain rfl := Except.ok.inj (hstate.symm.trans hpre)
      exact .inr ⟨hcel, huntyped, rfl, _, hpost, htyped, hinfos⟩
    · exact .inl ⟨rfl, hcel, hpre, huntyped, hpost, htyped, hinfos⟩
  · rintro (@⟨before, after, cel', pre, post, info, hcels, hcel, hpre, huntyped, hpost, htyped,
      hinfos⟩ | ⟨hcel, huntyped, rfl, post, hpost, htyped, hinfos⟩)
    · have hcels' : cels ++ [cel] = before ++ cel' :: (after ++ [cel]) := by simp [hcels]
      exact ⟨hcels', hcel, hpre, huntyped, hpost, htyped, hinfos⟩
    · exact ⟨rfl, hcel, hstate, huntyped, hpost, htyped, hinfos⟩

end CallerCELInterpretor

/-- The entries with a request are those that were created as such. -/
structure FirstRequested (creates : ℕ → ParticipantsInfo → Prop) (call : RawCallLog) : Prop where
  unique : ∀ i j info info', creates i info → creates j info' → i = j
  created : ∀ (i : ℕ) (p : ParticipantsInfo), call.participantsInfo[i]? = some p →
    p.requested = some true →
      ∃ info, creates i info ∧ p.userUuid = info.userUuid ∧ p.role = info.role
  kept : ∀ i info, creates i info → ∃ p : ParticipantsInfo, call.participantsInfo[i]? = some p ∧
    p.requested = some true

namespace FirstRequested

variable {creates : ℕ → ParticipantsInfo → Prop} {call' : RawCallLog}

/-- The entries of a later call, of which the new ones have no request. -/
lemma mono (h : FirstRequested creates call)
    (hinfos : Extends call.participantsInfo call'.participantsInfo) :
    FirstRequested creates call' := by
  refine ⟨h.unique, fun i p' hp' hrequested => ?_, fun i info hcreates => ?_⟩
  · obtain ⟨p, hp, hrequested, huuid, hrole⟩ := hinfos.exists_of_requested hp' hrequested
    obtain ⟨info, hcreates, huuid', hrole'⟩ := h.created i p hp hrequested
    exact ⟨info, hcreates, huuid.trans huuid', hrole.trans hrole'⟩
  · obtain ⟨p, hp, hrequested⟩ := h.kept i info hcreates
    obtain ⟨p', hp', hsame, -, -⟩ := hinfos.kept i p hp
    exact ⟨p', hp', hsame.trans hrequested⟩

/-- At most one entry has a request. -/
lemma eq_of_requested (h : FirstRequested creates call) {i j : ℕ} {p q : ParticipantsInfo}
    (hp : call.participantsInfo[i]? = some p) (hq : call.participantsInfo[j]? = some q)
    (hp' : p.requested = some true) (hq' : q.requested = some true) : i = j := by
  obtain ⟨info, hcreates, -⟩ := h.created i p hp hp'
  obtain ⟨info', hcreates', -⟩ := h.created j q hq hq'
  exact h.unique i j info info' hcreates hcreates'

/-- The entry that is created where there was none with a request. -/
lemma of_created (hnone : ∀ p ∈ call.participantsInfo, p.requested ≠ some true)
    (hinfos : call'.participantsInfo = call.participantsInfo ++ [info])
    (hrequested : info.requested = some true)
    (hcreates : ∀ j info', creates j info' ↔
      j = call.participantsInfo.length ∧ info' = info) : FirstRequested creates call' := by
  refine ⟨fun j k info₁ info₂ hj hk => ?_, fun j p hp hp' => ?_, fun j info' hj => ?_⟩
  · rw [((hcreates j info₁).1 hj).1, ((hcreates k info₂).1 hk).1]
  · rw [hinfos] at hp
    rcases lt_or_ge j call.participantsInfo.length with hlt | hge
    · rw [List.getElem?_append_left hlt] at hp
      exact absurd hp' (hnone p (List.mem_of_getElem? hp))
    · rw [List.getElem?_append_right hge] at hp
      obtain ⟨hzero, hp⟩ := List.getElem?_eq_some_iff.1 hp
      rw [List.length_singleton] at hzero
      have hj : j = call.participantsInfo.length := by omega
      obtain rfl : info = p := by simpa [hj] using hp
      exact ⟨info, (hcreates j info).2 ⟨hj, rfl⟩, rfl, rfl⟩
  · obtain ⟨rfl, rfl⟩ := (hcreates j info').1 hj
    exact ⟨info', by simp [hinfos], hrequested⟩

/-- Nothing is created, and nothing has a request. -/
lemma of_none (hnone : ∀ p ∈ call.participantsInfo, p.requested ≠ some true)
    (hcreates : ∀ j info, ¬creates j info) : FirstRequested creates call := by
  refine ⟨fun j _ info _ hj => absurd hj (hcreates j info), fun j p hp hp' => ?_,
    fun j info hj => absurd hj (hcreates j info)⟩
  exact absurd hp' (hnone p (List.mem_of_getElem? hp))

lemma requested_ne (h : FirstRequested creates call) (hcreates : ∀ j info, ¬creates j info) :
    ∀ p ∈ call.participantsInfo, p.requested ≠ some true := by
  intro p hp hrequested
  obtain ⟨j, hj⟩ := List.mem_iff_getElem?.1 hp
  obtain ⟨info, hcreated, -⟩ := h.created j p hj hrequested
  exact hcreates j info hcreated

end FirstRequested

namespace CallerCELInterpretor

/-- Once the type is set, nothing is created any more. -/
lemma firstRequested_concat_of_typed {call' : RawCallLog}
    (hstate : interpretCels x cels call = .ok state)
    (h : FirstRequested (Creates x cels call) state) (htyped : truthy state.requestedType = true)
    (hcel : interpretCel x cel state = .ok call') :
    FirstRequested (Creates x (cels ++ [cel]) call) call' ∧
      truthy call'.requestedType = true := by
  have hcreates : Creates x (cels ++ [cel]) call = Creates x cels call := by
    funext j info
    rw [eq_iff_iff, creates_concat_iff hstate, htyped]
    simp
  have hkept : truthy call'.requestedType = true ∧
      Extends state.participantsInfo call'.participantsInfo := by
    cases mentions_interpretCel state x cel call' hcel with
    | merged hinfos htype => exact ⟨htype ▸ htyped, hinfos⟩
    | destination type hinfos htype =>
      rw [if_pos htyped] at htype
      exact ⟨htype ▸ htyped, hinfos ▸ .refl _⟩
    | user _ info hinfos hrequested hrole htype =>
      rw [if_pos htyped] at htype
      have hunrequested : info.requested ≠ some true := by simp [hrequested, htyped]
      exact ⟨htype ▸ htyped, hinfos ▸ .concat hunrequested hrole⟩
  rw [hcreates]
  exact ⟨h.mono hkept.2, hkept.1⟩

/-- As long as no type is set, nothing has a request; the event that sets it creates at most
one entry. -/
lemma firstRequested_concat_of_untyped {call' : RawCallLog}
    (hstate : interpretCels x cels call = .ok state)
    (hnone : ∀ p ∈ state.participantsInfo, p.requested ≠ some true)
    (huntyped : truthy state.requestedType = false)
    (hcreates : ∀ j info, ¬Creates x cels call j info)
    (hcel : interpretCel x cel state = .ok call') :
    FirstRequested (Creates x (cels ++ [cel]) call) call' ∧
      (truthy call'.requestedType = false →
        ∀ j info, ¬Creates x (cels ++ [cel]) call j info) := by
  have hnew : ∀ j info, Creates x (cels ++ [cel]) call j info ↔
      cel.eventtype = .wazoCallLogDestination ∧ j = state.participantsInfo.length ∧
        truthy call'.requestedType = true ∧
        call'.participantsInfo = state.participantsInfo ++ [info] := by
    intro j info
    rw [creates_concat_iff hstate, hcel]
    simp [hcreates j info, huntyped]
  cases mentions_interpretCel state x cel call' hcel with
  | merged hinfos htype =>
    have hcreates' : ∀ j info, ¬Creates x (cels ++ [cel]) call j info := by
      intro j info hj
      obtain ⟨-, -, htyped, -⟩ := (hnew j info).1 hj
      rw [htype, huntyped] at htyped
      cases htyped
    refine ⟨.of_none (fun p hp hrequested => ?_) hcreates', fun _ => hcreates'⟩
    obtain ⟨j, hj⟩ := List.mem_iff_getElem?.1 hp
    obtain ⟨q, hq, hq', -⟩ := hinfos.exists_of_requested hj hrequested
    exact hnone q (List.mem_of_getElem? hq) hq'
  | destination type hinfos htype =>
    have hcreates' : ∀ j info, ¬Creates x (cels ++ [cel]) call j info := by
      intro j info hj
      obtain ⟨-, -, -, hinfos'⟩ := (hnew j info).1 hj
      simp [hinfos] at hinfos'
    exact ⟨.of_none (hinfos ▸ hnone) hcreates', fun _ => hcreates'⟩
  | user htype' info hinfos hrequested hrole htype =>
    rw [huntyped] at hrequested htype
    have htyped : truthy call'.requestedType = true := by simp [htype, truthy]
    refine ⟨.of_created hnone hinfos hrequested fun j info' => ?_, fun hfalse => ?_⟩
    · rw [hnew, hinfos]
      simp [htype', htyped, eq_comm]
    · rw [htyped] at hfalse
      cases hfalse

/-- One more event keeps the entries with a request, or creates the first one. -/
lemma firstRequested_concat {call' : RawCallLog} (hstate : interpretCels x cels call = .ok state)
    (h : FirstRequested (Creates x cels call) state)
    (huntyped : truthy state.requestedType = false → ∀ j info, ¬Creates x cels call j info)
    (hcel : interpretCel x cel state = .ok call') :
    FirstRequested (Creates x (cels ++ [cel]) call) call' ∧
      (truthy call'.requestedType = false →
        ∀ j info, ¬Creates x (cels ++ [cel]) call j info) := by
  cases htype : truthy state.requestedType with
  | true =>
    obtain ⟨hfirst, htyped⟩ := firstRequested_concat_of_typed hstate h htype hcel
    exact ⟨hfirst, fun hfalse => by simp [htyped] at hfalse⟩
  | false =>
    have hcreates := huntyped htype
    exact firstRequested_concat_of_untyped hstate (h.requested_ne hcreates) htype hcreates hcel

/-- The entries with a request after the caller's events. -/
lemma firstRequested_interpretCels (hinfos : call.participantsInfo = []) :
    Yields (interpretCels x cels call) (FirstRequested (Creates x cels call)) := by
  have hrun : Yields (interpretCels x cels call) fun call' =>
      interpretCels x cels call = .ok call' ∧ FirstRequested (Creates x cels call) call' ∧
        (truthy call'.requestedType = false → ∀ j info, ¬Creates x cels call j info) := by
    refine .foldlM (P := fun done (call' : RawCallLog) => interpretCels x done call = .ok call' ∧
      FirstRequested (Creates x done call) call' ∧
        (truthy call'.requestedType = false → ∀ j info, ¬Creates x done call j info)) ?_ ?_ cels
    · have hcreates : ∀ j info, ¬Creates x [] call j info := by
        rintro j info ⟨hcels, -⟩
        simp at hcels
      exact ⟨rfl, .of_none (by simp [hinfos]) hcreates, fun _ => hcreates⟩
    · rintro done state cel ⟨hstate, hfirst, huntyped⟩ call' hcel
      refine ⟨?_, firstRequested_concat hstate hfirst huntyped hcel⟩
      rw [interpretCels, interpretEach] at hstate ⊢
      rw [List.foldlM_append, hstate]
      simp [bind, Except.bind, pure, Except.pure, hcel]
  exact hrun.mono fun call' h => h.2.1

end CallerCELInterpretor

/-! ### An originated call -/

namespace LocalOriginateCELInterpretor

/-- The call when the WAZO_ORIGINATE_ALL_LINES event is looked for; `none` if
`interpret_cels` returns before. -/
def beforeOriginateAllLines (x : Externals) (cels : List CEL) (call : RawCallLog) :
    Except PyError (Option RawCallLog) := do
  match startingEvents cels with
  | none => return none
  | some ev =>
      let call := setSource x ev call
      match ← interpretRecordings x cels call.dateEnd call.recordings with
      | .leave _ => return none
      | .next recordings =>
          let call := setUserFieldAndVoicemail cels ev { call with recordings := recordings }
          return (setDestination x cels ev call).map (setDirection cels)

/-- The first WAZO_ORIGINATE_ALL_LINES event gives the call its type and adds an entry. -/
inductive Creates (x : Externals) (cels : List CEL) (call : RawCallLog) :
    ℕ → ParticipantsInfo → Prop
  | intro {cel : CEL} {pre post : RawCallLog} {info : ParticipantsInfo}
      (hcel : cels.find? (fun cel => cel.eventtype = .wazoOriginateAllLines) = some cel)
      (hpre : beforeOriginateAllLines x cels call = .ok (some pre))
      (huntyped : truthy pre.requestedType = false)
      (hpost : setOriginateAllLines x cels pre = .ok post)
      (htyped : truthy post.requestedType = true)
      (hinfos : post.participantsInfo = pre.participantsInfo ++ [info]) :
      Creates x cels call pre.participantsInfo.length info

variable (call) in
lemma mentions_setUserFieldAndVoicemail (cels : List CEL) (ev : StartingEvents) :
    (setUserFieldAndVoicemail cels ev call).mentions = call.mentions := by
  have hfold : ∀ (cels : List CEL) (c : RawCallLog),
      (cels.foldl (fun c cel => interpretVoicemailAppStart cel c) c).mentions = c.mentions := by
    intro cels
    induction cels with
    | nil => exact fun _ => rfl
    | cons cel cels ih => exact fun c => (ih _).trans mentions_interpretVoicemailAppStart
  unfold setUserFieldAndVoicemail
  dsimp only
  split
  · exact hfold _ _
  · exact hfold _ _

lemma mentions_setDestination {ev : StartingEvents} {call' : RawCallLog}
    (h : setDestination x cels ev call = some call') : call'.mentions = call.mentions := by
  rw [setDestination] at h
  split at h
  · rw [Option.some.inj h]
  · simp only [Option.bind_eq_bind, Option.bind_eq_some_iff, Option.some.injEq] at h
    obtain ⟨_, -, _, -, rfl⟩ := h
    rfl

/-- Until the event is looked for, no user is mentioned. -/
lemma interpretCels_cases : Yields (interpretCels x cels call) fun call' =>
    (beforeOriginateAllLines x cels call = .ok none ∧ call'.mentions = call.mentions) ∨
    ∃ pre, beforeOriginateAllLines x cels call = .ok (some pre) ∧
      pre.mentions = call.mentions ∧ setOriginateAllLines x cels pre = .ok call' := by
  rw [interpretCels, beforeOriginateAllLines]
  cases startingEvents cels with
  | none => exact .pure (.inl ⟨rfl, rfl⟩)
  | some ev =>
    dsimp only
    refine .bind fun flow hflow => ?_
    rw [hflow]
    cases flow with
    | leave recordings => exact .pure (.inl ⟨rfl, rfl⟩)
    | next recordings =>
      have hmentions := mentions_setUserFieldAndVoicemail
        { setSource x ev call with recordings := recordings } cels ev
      dsimp only [bind, Except.bind]
      cases hdestination : setDestination x cels ev (setUserFieldAndVoicemail cels ev
          { setSource x ev call with recordings := recordings }) with
      | none => exact .pure (Or.inl ⟨rfl, hmentions⟩)
      | some c =>
        intro call' hcall'
        have hmentions' := (mentions_setDestination hdestination).trans hmentions
        exact .inr ⟨setDirection cels c, rfl, hmentions', hcall'⟩

lemma participantsInfo_insertOrUpdate_nil {predicate : ParticipantsInfo → Bool}
    (h : call.participantsInfo = []) :
    (call.insertOrUpdateParticipantsInfo info predicate).participantsInfo = [info] := by
  simp [RawCallLog.insertOrUpdateParticipantsInfo, h]

/-- The entry of the user whose lines were called. -/
lemma mentions_setOriginateAllLines (hinfos : call.participantsInfo = [])
    (htype : call.requestedType = none) :
    Yields (setOriginateAllLines x cels call) fun call' =>
      (call'.participantsInfo, call'.requestedType) = ([], none) ∨
      ∃ cel info, cels.find? (fun cel => cel.eventtype = .wazoOriginateAllLines) = some cel ∧
        call'.participantsInfo = [info] ∧ info.requested = some true ∧
        info.role = some .source ∧ call'.requestedType = some "all_lines" := by
  have hsame : (call.participantsInfo, call.requestedType) = ([], none) := by
    rw [hinfos, htype]
  unfold setOriginateAllLines
  split
  · exact .pure (.inl hsame)
  · next cel hcel =>
    refine .bind fun info _ => ?_
    split
    · exact .pure (.inl hsame)
    · next info _ =>
      obtain ⟨hinfos', htype'⟩ := Prod.mk.inj (mentions_setTenantUuid call info.tenantUuid)
      have huntyped : truthy (call.setTenantUuid info.tenantUuid).requestedType = false := by
        rw [htype', htype]
        rfl
      refine .pure (.inr ⟨cel, _, hcel, participantsInfo_insertOrUpdate_nil ?_,
        congrArg (fun typed => some !typed) huntyped, rfl, rfl⟩)
      exact hinfos'.trans hinfos

/-- The entries with a request of an originated call. -/
lemma firstRequested_interpretCels (hinfos : call.participantsInfo = [])
    (htype : call.requestedType = none) :
    Yields (interpretCels x cels call) (FirstRequested (Creates x cels call)) := by
  intro call' hcall'
  rcases interpretCels_cases call' hcall' with ⟨hbefore, hsame⟩ | ⟨pre, hpre, hsame, hpost⟩
  · -- the event is not reached
    obtain ⟨hinfos', -⟩ := Prod.mk.inj hsame
    refine .of_none (by simp [hinfos', hinfos]) ?_
    rintro j info ⟨-, hpre, -⟩
    cases hbefore.symm.trans hpre
  · obtain ⟨hinfos', htype'⟩ := Prod.mk.inj hsame
    rw [hinfos] at hinfos'
    rw [htype] at htype'
    have hnone : ∀ p ∈ pre.participantsInfo, p.requested ≠ some true := by simp [hinfos']
    have hcreates : ∀ j info, Creates x cels call j info ↔
        (cels.find? fun cel => cel.eventtype = .wazoOriginateAllLines).isSome ∧
          j = pre.participantsInfo.length ∧ truthy call'.requestedType = true ∧
          call'.participantsInfo = pre.participantsInfo ++ [info] := by
      intro j info
      constructor
      · rintro ⟨hcel, hpre', -, hpost', htyped, hinfos⟩
        obtain rfl := Option.some.inj (Except.ok.inj (hpre.symm.trans hpre'))
        obtain rfl := Except.ok.inj (hpost.symm.trans hpost')
        exact ⟨Option.isSome_of_eq_some hcel, rfl, htyped, hinfos⟩
      · rintro ⟨hcel, rfl, htyped, hinfos⟩
        obtain ⟨cel, hcel⟩ := Option.isSome_iff_exists.1 hcel
        exact ⟨hcel, hpre, by rw [htype']; rfl, hpost, htyped, hinfos⟩
    rcases mentions_setOriginateAllLines hinfos' htype' call' hpost with hsame |
      ⟨cel, info, hcel, hentry, hrequested, -, htyped⟩
    · obtain ⟨hinfos'', -⟩ := Prod.mk.inj hsame
      refine .of_none (by simp [hinfos'']) fun j info hj => ?_
      obtain ⟨-, -, -, hinfos⟩ := (hcreates j info).1 hj
      simp [hinfos''] at hinfos
    · refine .of_created hnone ?_ hrequested fun j info' => ?_
      · rw [hentry, hinfos']
        rfl
      · rw [hcreates, hcel, hentry, hinfos', htyped]
        simp only [Option.isSome_some, List.nil_append, List.cons.injEq, and_true, true_and,
          eq_comm (a := info), and_congr_right_iff]
        exact fun _ => ⟨And.right, fun h => ⟨rfl, h⟩⟩

end LocalOriginateCELInterpretor

/-! ### The interpretors -/

/-- An entry is created, with a request, by the event that gives the call its requested
type: the first one to do so. -/
def CELInterpretor.Creates (x : Externals) :
    CELInterpretor → List CEL → RawCallLog → ℕ → ParticipantsInfo → Prop
  | localOriginate, cels, call => LocalOriginateCELInterpretor.Creates x cels call
  | dispatch, cels, call =>
      CallerCELInterpretor.Creates x (DispatchCELInterpretor.splitCallerCalleeCels cels).1 call

/-- The entries with a request of an interpreted call. -/
lemma CELInterpretor.firstRequested_interpretCels (interpretor : CELInterpretor)
    (hinfos : call.participantsInfo = []) (htype : call.requestedType = none) :
    Yields (interpretor.interpretCels x cels call)
      (FirstRequested (interpretor.Creates x cels call)) := by
  cases interpretor with
  | localOriginate => exact LocalOriginateCELInterpretor.firstRequested_interpretCels hinfos htype
  | dispatch =>
    refine .bind fun call₁ hcaller => ?_
    have hfirst := CallerCELInterpretor.firstRequested_interpretCels hinfos call₁ hcaller
    refine (CalleeCELInterpretor.mentions_interpretCels _).mono fun call₂ hsame => ?_
    exact hfirst.mono ((Prod.mk.inj hsame).1 ▸ .refl _)

/-- At most one mention has a request, which is that of the first event to name a
destination, and whose entry is never cleared. -/
theorem requested_first (interpretor : CELInterpretor) {linkedids : Finset String}
    (h : interpretor.interpretCels x cels (newCallLog linkedids cels) = .ok call) :
    (∀ (i j : ℕ) (p q : ParticipantsInfo), call.participantsInfo[i]? = some p →
      call.participantsInfo[j]? = some q → p.requested = some true →
        q.requested = some true → i = j) ∧
    (∀ (i : ℕ) (p : ParticipantsInfo), call.participantsInfo[i]? = some p →
      p.requested = some true → ∃ info,
        interpretor.Creates x cels (newCallLog linkedids cels) i info ∧
          p.userUuid = info.userUuid ∧ p.role = info.role) ∧
    ∀ i info, interpretor.Creates x cels (newCallLog linkedids cels) i info →
      ∃ p : ParticipantsInfo, call.participantsInfo[i]? = some p ∧ p.requested = some true := by
  have hfirst := interpretor.firstRequested_interpretCels rfl rfl call h
  refine ⟨fun i j p q hp hq => ?_, hfirst.created, hfirst.kept⟩
  exact hfirst.eq_of_requested hp hq

/-- The destination of a call is a user. -/
def destinationEvent (id : ℕ) (userUuid name : String) : CEL :=
  { plainEvent id "1.1" "PJSIP/alice-00000001" .wazoCallLogDestination with
    extra := some ("\x7b\"extra\": \"type: user,uuid: " ++ userUuid ++ ",name: " ++ name ++
      "\"\x7d") }

/-- A call to a user that goes on to another one. -/
def transferredToUser : List CEL :=
  [plainEvent 1 "1.1" "PJSIP/alice-00000001" .chanStart, destinationEvent 2 "0a5bd3a4" "Bob",
    destinationEvent 3 "7d5d1a1e" "Carol"]

/-- The first of two users is requested. -/
theorem requested_first_transferredToUser : ∃ call : RawCallLog,
    CELInterpretor.dispatch.interpretCels .ascii transferredToUser
      (newCallLog {"1.1"} transferredToUser) = .ok call ∧
    call.participantsInfo.map (·.requested) = [some true, some false] ∧
    ∀ (i : ℕ) (p : ParticipantsInfo), call.participantsInfo[i]? = some p →
      p.requested = some true → ∃ info,
        CELInterpretor.dispatch.Creates .ascii transferredToUser
          (newCallLog {"1.1"} transferredToUser) i info ∧
          p.userUuid = info.userUuid ∧ p.role = info.role := by
  have hrun : ∃ call, CELInterpretor.dispatch.interpretCels .ascii transferredToUser
      (newCallLog {"1.1"} transferredToUser) = .ok call ∧
        call.participantsInfo.map (·.requested) = [some true, some false] :=
    exists_of_map_eq_ok (g := fun call : RawCallLog => call.participantsInfo.map (·.requested))
      (by decide +kernel)
  obtain ⟨call, hcall, hrequested⟩ := hrun
  exact ⟨call, hcall, hrequested, (requested_first .dispatch hcall).2.1⟩

end CallLogd
