/-
The internal extensions of a call log: `_fill_extensions_from_participants`.

An extension and its context are set together.  The pair of the source and the requested
one are filled in by the first participant that has an extension, unless both parts were
interpreted; the pair of the destination is in addition overwritten by every answered
participant, so the last one of them stays (`fillExtensionsFromParticipants_eq`).
-/
import CallLogd.Generator

namespace CallLogd

/-- An internal extension and its context. -/
abbrev InternalPair := Option String × Option String

namespace InternalPair

/-- Both parts are set. -/
def isSet (pair : InternalPair) : Bool := truthy pair.1 ∧ truthy pair.2

/-- The pair of an extension. -/
def ofExtension (extension : Extension) : InternalPair :=
  (some extension.exten, some extension.context)

/-- A pair that was interpreted, or else the first of the extensions. -/
def orFirst (interpreted : InternalPair) (extensions : List Extension) : InternalPair :=
  if interpreted.isSet then interpreted else (extensions.head?.map ofExtension).getD interpreted

/-- The last of the extensions that answered, or else the pair that was interpreted, or
else the first of the extensions. -/
def lastAnsweredOrFirst (interpreted : InternalPair) (extensions : List (Bool × Extension)) :
    InternalPair :=
  (((extensions.filter (·.1)).getLast?).map (ofExtension ·.2)).getD
    (interpreted.orFirst (extensions.map (·.2)))

/-- The pair was interpreted, or comes from one of the extensions. -/
def FromOnePlace (interpreted : InternalPair) (extensions : List Extension)
    (pair : InternalPair) : Prop :=
  (interpreted.isSet = true ∧ pair = interpreted) ∨ ∃ e ∈ extensions, pair = ofExtension e

/-- An extension fills in a pair that is not set. -/
def fill (pair : InternalPair) (extension : Extension) : InternalPair :=
  if pair.isSet then pair else ofExtension extension

/-- An extension that answered fills in any pair. -/
def fillAnswered (pair : InternalPair) (extension : Bool × Extension) : InternalPair :=
  if extension.1 then ofExtension extension.2 else pair.fill extension.2

variable {pair : InternalPair} {extension : Extension}

lemma isSet_ofExtension (h : extension.exten ≠ "" ∧ extension.context ≠ "") :
    (ofExtension extension).isSet = true := by
  simp [isSet, ofExtension, truthy, h.1, h.2]

lemma isSet_fill (h : extension.exten ≠ "" ∧ extension.context ≠ "") :
    (pair.fill extension).isSet = true := by
  unfold fill
  split
  · assumption
  · exact isSet_ofExtension h

lemma fillAnswered_eq {answered : Prop} [Decidable answered] :
    pair.fillAnswered (decide answered, extension) =
      if answered ∨ ¬ pair.isSet = true then ofExtension extension else pair := by
  by_cases hanswered : answered <;> cases h : pair.isSet <;>
    simp [fillAnswered, fill, h, hanswered]

/-- A pair that is set is not filled in. -/
lemma foldl_fill_of_isSet (h : pair.isSet = true) (extensions : List Extension) :
    extensions.foldl fill pair = pair := by
  induction extensions with
  | nil => rfl
  | cons extension extensions ih => rw [List.foldl_cons, fill, if_pos h, ih]

/-- The first extension stays. -/
lemma foldl_fill {extensions : List Extension}
    (h : ∀ e ∈ extensions, e.exten ≠ "" ∧ e.context ≠ "") :
    extensions.foldl fill pair = pair.orFirst extensions := by
  cases extensions with
  | nil => simp [orFirst]
  | cons extension extensions =>
      rw [List.foldl_cons, foldl_fill_of_isSet (isSet_fill (h extension List.mem_cons_self))]
      rfl

lemma orFirst_fill (h : extension.exten ≠ "" ∧ extension.context ≠ "")
    (extensions : List Extension) :
    (pair.fill extension).orFirst extensions = pair.orFirst (extension :: extensions) := by
  rw [orFirst, if_pos (isSet_fill h)]
  rfl

lemma lastAnsweredOrFirst_cons_answered (h : extension.exten ≠ "" ∧ extension.context ≠ "")
    (extensions : List (Bool × Extension)) :
    pair.lastAnsweredOrFirst ((true, extension) :: extensions) =
      (ofExtension extension).lastAnsweredOrFirst extensions := by
  rw [lastAnsweredOrFirst, lastAnsweredOrFirst, List.filter_cons_of_pos rfl, List.getLast?_cons,
    orFirst, orFirst, if_pos (isSet_ofExtension h)]
  cases (extensions.filter (·.1)).getLast? <;> rfl

lemma lastAnsweredOrFirst_cons_unanswered (h : extension.exten ≠ "" ∧ extension.context ≠ "")
    (extensions : List (Bool × Extension)) :
    pair.lastAnsweredOrFirst ((false, extension) :: extensions) =
      (pair.fill extension).lastAnsweredOrFirst extensions := by
  rw [lastAnsweredOrFirst, lastAnsweredOrFirst, List.filter_cons_of_neg (by simp), List.map_cons,
    orFirst_fill h]

/-- The last extension that answered stays, and the first one if none did. -/
lemma foldl_fillAnswered {extensions : List (Bool × Extension)}
    (h : ∀ e ∈ extensions, e.2.exten ≠ "" ∧ e.2.context ≠ "") :
    extensions.foldl fillAnswered pair = pair.lastAnsweredOrFirst extensions := by
  induction extensions generalizing pair with
  | nil => simp [lastAnsweredOrFirst, orFirst]
  | cons e extensions ih =>
      obtain ⟨answered, extension⟩ := e
      have hextension := h (answered, extension) List.mem_cons_self
      rw [List.foldl_cons, ih fun e he => h e (List.mem_cons_of_mem _ he)]
      cases answered with
      | true => rw [lastAnsweredOrFirst_cons_answered hextension, fillAnswered, if_pos rfl]
      | false => rw [lastAnsweredOrFirst_cons_unanswered hextension, fillAnswered,
          if_neg Bool.false_ne_true]

/-- If there is an extension, both parts come from the same place. -/
lemma fromOnePlace_orFirst {extensions : List Extension} (h : extensions ≠ []) :
    FromOnePlace pair extensions (pair.orFirst extensions) := by
  obtain ⟨e, rest, rfl⟩ := List.exists_cons_of_ne_nil h
  unfold orFirst
  split
  · next hset => exact .inl ⟨hset, rfl⟩
  · exact .inr ⟨e, List.mem_cons_self, rfl⟩

lemma fromOnePlace_lastAnsweredOrFirst {extensions : List (Bool × Extension)}
    (h : extensions ≠ []) : FromOnePlace pair (extensions.map (·.2))
      (pair.lastAnsweredOrFirst extensions) := by
  unfold lastAnsweredOrFirst
  cases hlast : (extensions.filter (·.1)).getLast? with
  | some last =>
      have hmem := List.mem_of_mem_filter (List.mem_of_getLast? hlast)
      exact .inr ⟨last.2, List.mem_map_of_mem hmem, rfl⟩
  | none => exact fromOnePlace_orFirst (by simpa using h)

end InternalPair

/-! ### The pairs of a call -/

namespace RawCallLog

/-- The internal pair of the source. -/
def sourcePair (call : RawCallLog) : InternalPair :=
  (call.sourceInternalExten, call.sourceInternalContext)

/-- The internal pair that was requested. -/
def requestedPair (call : RawCallLog) : InternalPair :=
  (call.requestedInternalExten, call.requestedInternalContext)

/-- The internal pair of the destination. -/
def destinationPair (call : RawCallLog) : InternalPair :=
  (call.destinationInternalExten, call.destinationInternalContext)

/-- The call with other internal pairs. -/
def withPairs (call : RawCallLog) (source requested destination : InternalPair) : RawCallLog :=
  { call with
    sourceInternalExten := source.1
    sourceInternalContext := source.2
    requestedInternalExten := requested.1
    requestedInternalContext := requested.2
    destinationInternalExten := destination.1
    destinationInternalContext := destination.2 }

end RawCallLog

namespace CallLogsGenerator

open InternalPair

variable {call : RawCallLog}

lemma isSet_sourcePair : call.sourcePair.isSet = true ↔
    truthy call.sourceInternalExten ∧ truthy call.sourceInternalContext :=
  decide_eq_true_iff

lemma isSet_requestedPair : call.requestedPair.isSet = true ↔
    truthy call.requestedInternalExten ∧ truthy call.requestedInternalContext :=
  decide_eq_true_iff

lemma isSet_destinationPair : call.destinationPair.isSet = true ↔
    truthy call.destinationInternalExten ∧ truthy call.destinationInternalContext :=
  decide_eq_true_iff

lemma fillSourceExtension_eq (p : RawParticipant) : fillSourceExtension call p =
    call.withPairs ((p.info.bind (·.mainExtension)).elim call.sourcePair call.sourcePair.fill)
      call.requestedPair call.destinationPair := by
  unfold fillSourceExtension
  cases p.info.bind (·.mainExtension) with
  | none => rfl
  | some extension =>
      rw [Option.elim_some, fill]
      dsimp only
      by_cases h : call.sourcePair.isSet = true
      · rw [if_pos h, if_pos (isSet_sourcePair.1 h)]
        rfl
      · rw [if_neg h, if_neg (mt isSet_sourcePair.2 h)]
        rfl

lemma fillDestinationExtension_eq (p : RawParticipant) : fillDestinationExtension call p =
    call.withPairs call.sourcePair
      ((p.info.bind (·.mainExtension)).elim call.requestedPair call.requestedPair.fill)
      ((p.info.bind (·.mainExtension)).elim call.destinationPair fun extension =>
        call.destinationPair.fillAnswered (p.answered = some true, extension)) := by
  unfold fillDestinationExtension
  cases p.info.bind (·.mainExtension) with
  | none => rfl
  | some extension =>
      rw [Option.elim_some, Option.elim_some, fillAnswered_eq, fill]
      dsimp only
      by_cases hdestination : p.answered = some true ∨ ¬ call.destinationPair.isSet = true
      · have hcode := hdestination.imp_right (mt isSet_destinationPair.2)
        by_cases h : call.requestedPair.isSet = true
        · rw [if_pos hdestination, if_pos hcode, if_pos h, if_pos (isSet_requestedPair.1 h)]
          rfl
        · rw [if_pos hdestination, if_pos hcode, if_neg h, if_neg (mt isSet_requestedPair.2 h)]
          rfl
      · have hcode := mt (Or.imp_right (mt isSet_destinationPair.1)) hdestination
        by_cases h : call.requestedPair.isSet = true
        · rw [if_neg hdestination, if_neg hcode, if_pos h, if_pos (isSet_requestedPair.1 h)]
          rfl
        · rw [if_neg hdestination, if_neg hcode, if_neg h, if_neg (mt isSet_requestedPair.2 h)]
          rfl

/-- The extensions of some participants, with whether they answered. -/
def answeredExtensions (participants : List RawParticipant) : List (Bool × Extension) :=
  participants.filterMap fun p =>
    (p.info.bind (·.mainExtension)).map fun extension => (p.answered = some true, extension)

lemma foldl_fillSourceExtension (participants : List RawParticipant) :
    participants.foldl fillSourceExtension call =
      call.withPairs (((answeredExtensions participants).map (·.2)).foldl fill call.sourcePair)
        call.requestedPair call.destinationPair := by
  induction participants generalizing call with
  | nil => rfl
  | cons p participants ih =>
      rw [List.foldl_cons, ih, fillSourceExtension_eq, answeredExtensions, answeredExtensions,
        List.filterMap_cons]
      cases p.info.bind (·.mainExtension) <;> rfl

lemma foldl_fillDestinationExtension (participants : List RawParticipant) :
    participants.foldl fillDestinationExtension call =
      call.withPairs call.sourcePair
        (((answeredExtensions participants).map (·.2)).foldl fill call.requestedPair)
        ((answeredExtensions participants).foldl fillAnswered call.destinationPair) := by
  induction participants generalizing call with
  | nil => rfl
  | cons p participants ih =>
      rw [List.foldl_cons, ih, fillDestinationExtension_eq, answeredExtensions,
        answeredExtensions, List.filterMap_cons]
      cases p.info.bind (·.mainExtension) <;> rfl

/-- The extensions of the participants of a role, with whether they answered. -/
def extensionsOf (role : Role) (call : RawCallLog) : List (Bool × Extension) :=
  answeredExtensions ((call.rawParticipants.map (·.2)).filter fun p => p.role = some role)

lemma extensionsOf_valid {role : Role} (hextensions : ∀ p ∈ call.rawParticipants, ∀ extension,
      p.2.info.bind (·.mainExtension) = some extension →
        extension.exten ≠ "" ∧ extension.context ≠ "") :
    ∀ e ∈ extensionsOf role call, e.2.exten ≠ "" ∧ e.2.context ≠ "" := by
  intro e he
  obtain ⟨p, hp, hmap⟩ := List.mem_filterMap.1 he
  obtain ⟨extension, hextension, rfl⟩ := Option.map_eq_some_iff.1 hmap
  obtain ⟨q, hq, rfl⟩ := List.mem_map.1 (List.mem_of_mem_filter hp)
  exact hextensions q hq extension hextension

variable (call) in
/-- The pairs of the source and of the request were interpreted or come from the first
extension, and that of the destination comes from the last extension that answered, if
there is any.  Where there is an extension, both parts come from the same place. -/
theorem fillExtensionsFromParticipants_eq
    (hroles : ∀ p ∈ call.rawParticipants, p.2.role ≠ none)
    (hextensions : ∀ p ∈ call.rawParticipants, ∀ extension,
      p.2.info.bind (·.mainExtension) = some extension →
        extension.exten ≠ "" ∧ extension.context ≠ "") :
    ∃ call', fillExtensionsFromParticipants call = .ok call' ∧
      call' = call.withPairs
        (call.sourcePair.orFirst ((extensionsOf .source call).map (·.2)))
        (call.requestedPair.orFirst ((extensionsOf .destination call).map (·.2)))
        (call.destinationPair.lastAnsweredOrFirst (extensionsOf .destination call)) ∧
      (extensionsOf .source call = [] → call'.sourcePair = call.sourcePair) ∧
      (extensionsOf .destination call = [] → call'.requestedPair = call.requestedPair ∧
        call'.destinationPair = call.destinationPair) ∧
      (extensionsOf .source call ≠ [] → FromOnePlace call.sourcePair
        ((extensionsOf .source call).map (·.2)) call'.sourcePair) ∧
      (extensionsOf .destination call ≠ [] →
        FromOnePlace call.requestedPair ((extensionsOf .destination call).map (·.2))
          call'.requestedPair ∧
        FromOnePlace call.destinationPair ((extensionsOf .destination call).map (·.2))
          call'.destinationPair) := by
  have hvalid : ∀ role, ∀ e ∈ (extensionsOf role call).map (·.2),
      e.exten ≠ "" ∧ e.context ≠ "" := by
    intro role e he
    obtain ⟨f, hf, rfl⟩ := List.mem_map.1 he
    exact extensionsOf_valid hextensions f hf
  have hany : ¬ ((call.rawParticipants.map (·.2)).any fun p => p.role = none) = true := by
    simpa using fun name p hp => hroles (name, p) hp
  refine ⟨_, ?_, rfl, fun h => ?_, fun h => ⟨?_, ?_⟩, fun h => ?_, fun h => ⟨?_, ?_⟩⟩
  · rw [fillExtensionsFromParticipants, if_neg hany]
    refine congrArg Except.ok ((foldl_fillDestinationExtension _).trans ?_)
    rw [foldl_fillSourceExtension, ← foldl_fill (hvalid .source),
      ← foldl_fill (hvalid .destination), ← foldl_fillAnswered (extensionsOf_valid hextensions)]
    rfl
  · simp [RawCallLog.withPairs, RawCallLog.sourcePair, orFirst, h]
  · simp [RawCallLog.withPairs, RawCallLog.requestedPair, orFirst, h]
  · simp [RawCallLog.withPairs, RawCallLog.destinationPair, lastAnsweredOrFirst, orFirst, h]
  · exact fromOnePlace_orFirst (by simpa using h)
  · exact fromOnePlace_orFirst (by simpa using h)
  · exact fromOnePlace_lastAnsweredOrFirst h

/-- Two destinations ring, and the second one answers. -/
def forkedCall : RawCallLog :=
  { requestedInternalExten := some "1001"
    rawParticipants :=
      [("PJSIP/alice-00000001",
        { role := some .source, info := some ⟨"alice", "tenant", none, [], none⟩ }),
      ("PJSIP/bob-00000002",
        { role := some .destination,
          info := some ⟨"bob", "tenant", none, [], some ⟨"1001", "default"⟩⟩ }),
      ("PJSIP/charlie-00000003",
        { role := some .destination, answered := some true,
          info := some ⟨"charlie", "tenant", none, [], some ⟨"1002", "default"⟩⟩ })] }

theorem fillExtensionsFromParticipants_forkedCall :
    ∃ call', fillExtensionsFromParticipants forkedCall = .ok call' ∧
      call'.requestedPair = (some "1001", some "default") ∧
      call'.destinationPair = (some "1002", some "default") := by
  obtain ⟨call', hcall', rfl, -⟩ := fillExtensionsFromParticipants_eq forkedCall
    (by decide) (by decide)
  exact ⟨_, hcall', rfl, rfl⟩

end CallLogsGenerator

end CallLogd
