/-
The payloads with which a call is interpreted to its end.

Each handler reads its payload in its own way.  The payload that a handler can read is
described here for each type of event, and a list of events is interpreted without an error
if and only if each of them can be read in the state before it.
-/
import CallLogd.Lib.Results
import CallLogd.Interpretor.MalformedMixmonitor
import CallLogd.Interpretor.Marks

namespace CallLogd

open Results

/-! ### Payloads that can be read -/

/-- The payload is absent, or an object whose `extra` satisfies `P`. -/
def HasExtra (P : Json → Prop) (payload : Json) : Prop :=
  payload.truthy = false ∨ ∃ fields value, payload = .obj fields ∧
    fields.lookup "extra" = some value ∧ P value

/-- The value is a text that satisfies `P`. -/
def IsText (P : String → Prop) (value : Json) : Prop := ∃ text, value = .str text ∧ P text

/-- The text has `n` tokens, each with a label. -/
def HasLabels (n : ℕ) (text : String) : Prop :=
  ∀ i < n, ∃ token, (Text.splitString "," text)[i]? = some token ∧ [':', ' '] <:+: token.toList

/-- The name of a conference follows its label. -/
def NamesConference (text : String) : Prop := ['N', 'A', 'M', 'E', ':', ' '] <:+: text.toList

/-- The text has key pairs. -/
def HasPairs (x : Externals) (text : String) : Prop := parseKeyPairSequence x text ≠ []

/-- The keys that a type of destination needs. -/
def requiredKeys (type : String) : List String :=
  if type = "conference" then ["id"]
  else if type = "user" ∨ type = "meeting" then ["uuid", "name"]
  else if type = "group" then ["id", "label"]
  else []

/-- The keys that the type needs, if there is one, are there. -/
def HasRequiredKeys (d : Dict String String) : Prop :=
  ∀ type, d.get? "type" = some type → ∀ key ∈ requiredKeys type, d.get? key ≠ none

/-- The text has key pairs, among them those that its type needs. -/
def DescribesDestination (x : Externals) (text : String) : Prop :=
  HasPairs x text ∧ HasRequiredKeys (dictOfPairs (parseKeyPairSequence x text))

/-- The identifier of a bridge can be used as a key. -/
def NamesBridge : Json → Prop
  | .obj fields => ∀ id technology, fields.lookup "bridge_id" = some id →
      fields.lookup "bridge_technology" = some technology → id.hashable = true
  | .arr items => items.all Json.hashable = true ∧
      ¬ (.str "bridge_id" ∈ items ∧ .str "bridge_technology" ∈ items)
  | .str _ => True
  | payload => payload.truthy = false

/-- The payload is ignored, or the recording has a path. -/
def StartsRecording (payload : Json) : Prop :=
  LacksKey ["mixmonitor_id", "filename"] payload ∨
    ∃ fields path, payload = .obj fields ∧ fields.lookup "filename" = some (.str path)

/-- The payload is absent, or an object. -/
def StopsRecording (payload : Json) : Prop :=
  payload.truthy = false ∨ ∃ fields, payload = .obj fields

/-- The payload can be decoded within the limits, and satisfies `P`. -/
def Decodes (x : Externals) (cel : CEL) (P : Json → Prop) : Prop :=
  ∃ payload, extractCelExtra x cel.extra = .ok payload ∧ P payload

/-! ### Accessors -/

section Accessors

variable {α : Type} {x : Externals} {cel : CEL} {payload : Json} {P : Json → Prop}

lemma completes_payload {f : Json → Except PyError α}
    (hf : ∀ payload, Completes (f payload) ↔ P payload) :
    Completes (extractCelExtra x cel.extra >>= f) ↔ Decodes x cel P := by
  simp only [completes_bind, hf, Decodes]

lemma completes_getItem {f : Json → Except PyError α} (htruthy : payload.truthy = true)
    (hf : ∀ value, Completes (f value) ↔ P value) :
    Completes (getItem payload "extra" >>= f) ↔ HasExtra P payload := by
  rw [completes_bind, HasExtra]
  constructor
  · rintro ⟨value, hvalue, h⟩
    cases payload with
    | obj fields =>
      cases hlookup : fields.lookup "extra" with
      | none => simp [getItem, hlookup] at hvalue
      | some value' =>
        simp only [getItem, hlookup, Except.ok.injEq] at hvalue
        subst hvalue
        exact Or.inr ⟨fields, value', rfl, hlookup, (hf value').1 h⟩
    | _ => cases hvalue
  · rintro (hfalsy | ⟨fields, value, rfl, hlookup, h⟩)
    · cases hfalsy.symm.trans htruthy
    · exact ⟨value, by simp only [getItem, hlookup], (hf value).2 h⟩

lemma completes_strMethod {f : String → Except PyError α} {P : String → Prop} {value : Json}
    (hf : ∀ text, Completes (f text) ↔ P text) :
    Completes (strMethod value >>= f) ↔ IsText P value := by
  rw [completes_bind, IsText]
  constructor
  · rintro ⟨text, htext, h⟩
    cases value with
    | str text' =>
      cases htext
      exact ⟨text, rfl, (hf text).1 h⟩
    | _ => cases htext
  · rintro ⟨text, rfl, h⟩
    exact ⟨text, rfl, (hf text).2 h⟩

lemma completes_strPattern {value : Json} :
    Completes (strPattern value) ↔ ∃ path, value = .str path := by
  cases value <;> simp [strPattern]

lemma parseKeyPairSequence_empty (x : Externals) : parseKeyPairSequence x "" = [] := rfl

lemma extractKeyValuePairsAsDict_eq_ok {d : Dict String String} :
    extractKeyValuePairsAsDict x payload = .ok d ↔ ∃ fields text, payload = .obj fields ∧
      fields.lookup "extra" = some (.str text) ∧ parseKeyPairSequence x text ≠ [] ∧
        dictOfPairs (parseKeyPairSequence x text) = d := by
  unfold extractKeyValuePairsAsDict
  cases payload with
  | obj fields =>
    cases hlookup : fields.lookup "extra" with
    | none =>
      -- the default is the empty text, which has no pairs
      simp only [hlookup, Option.getD_none, strPattern, bind, Except.bind,
        parseKeyPairSequence_empty]
      simp [hlookup]
    | some value =>
      cases value with
      | str text =>
        simp only [hlookup, Option.getD_some, strPattern, bind, Except.bind]
        cases hpairs : parseKeyPairSequence x text with
        | nil => simp [hlookup, hpairs]
        | cons p pairs => simp [hlookup, hpairs]
      | _ => simp [hlookup, strPattern, bind, Except.bind]
  | _ => simp [bind, Except.bind]

lemma completes_extractKeyValuePairsAsDict {f : Dict String String → Except PyError α}
    {P : Dict String String → Prop} (htruthy : payload.truthy = true)
    (hf : ∀ d, Completes (f d) ↔ P d) :
    Completes (extractKeyValuePairsAsDict x payload >>= f) ↔ HasExtra (IsText fun text =>
      HasPairs x text ∧ P (dictOfPairs (parseKeyPairSequence x text))) payload := by
  rw [completes_bind, HasExtra]
  simp only [extractKeyValuePairsAsDict_eq_ok, hf, IsText, htruthy, HasPairs, Bool.true_eq_false,
    false_or]
  constructor
  · rintro ⟨_, ⟨fields, text, rfl, hlookup, hpairs, rfl⟩, h⟩
    exact ⟨fields, _, rfl, hlookup, text, rfl, hpairs, h⟩
  · rintro ⟨fields, _, rfl, hlookup, text, rfl, hpairs, h⟩
    exact ⟨_, ⟨fields, text, rfl, hlookup, hpairs, rfl⟩, h⟩

lemma completes_hasPairs {f : Dict String String → Except PyError α}
    (htruthy : payload.truthy = true) (hf : ∀ d, Completes (f d)) :
    Completes (extractKeyValuePairsAsDict x payload >>= f) ↔
      HasExtra (IsText (HasPairs x)) payload := by
  refine (completes_extractKeyValuePairsAsDict htruthy fun d => iff_true_intro (hf d)).trans ?_
  simp only [and_true]

lemma completes_dictItem {f : String → Except PyError α} {d : Dict String String} {key : String}
    {p : Prop} (hf : ∀ value, Completes (f value) ↔ p) :
    Completes (dictItem d key >>= f) ↔ d.get? key ≠ none ∧ p := by
  unfold dictItem
  cases d.get? key with
  | none => simp [bind, Except.bind]
  | some value =>
    rw [and_iff_right (Option.some_ne_none value)]
    exact hf value

lemma hasRequiredKeys_iff {d : Dict String String} {type : String}
    (htype : d.get? "type" = some type) :
    HasRequiredKeys d ↔ ∀ key ∈ requiredKeys type, d.get? key ≠ none := by
  unfold HasRequiredKeys
  rw [htype]
  exact ⟨fun h => h type rfl, fun h type' htype' => Option.some.inj htype' ▸ h⟩

lemma completes_labelledToken {f : String → Except PyError α} {tokens : List String} {i : ℕ}
    {p : Prop} (hf : ∀ value, Completes (f value) ↔ p) :
    Completes (labelledToken tokens i >>= f) ↔
      (∃ token, tokens[i]? = some token ∧ [':', ' '] <:+: token.toList) ∧ p := by
  unfold labelledToken getIndex
  cases tokens[i]? with
  | none => simp [bind, Except.bind]
  | some token =>
    have hlabel : [':', ' '] <:+: token.toList ↔
        ∃ value, (Text.splitString ": " token)[1]? = some value := by
      have hseparator : ": ".toList = [':', ' '] := by decide
      rw [← Text.one_lt_length_split, Text.splitString, hseparator]
      simp [List.getElem?_eq_some_iff]
    simp only [Option.some.injEq, exists_eq_left', hlabel, bind, Except.bind]
    cases (Text.splitString ": " token)[1]? with
    | none => simp
    | some value => simpa using hf value

/-- An absent payload leaves the call as it is. -/
lemma completes_unless_falsy {m : Except PyError α} {a : α}
    (h : payload.truthy = true → (Completes m ↔ HasExtra P payload)) :
    Completes (if !payload.truthy then pure a else m) ↔ HasExtra P payload := by
  cases htruthy : payload.truthy with
  | false => simp [HasExtra, htruthy]
  | true => simpa using h htruthy

lemma completes_extractUserMissedCallVariables (htruthy : payload.truthy = true) :
    Completes (extractUserMissedCallVariables x payload) ↔
      HasExtra (IsText (HasLabels 6)) payload := by
  unfold extractUserMissedCallVariables
  refine completes_getItem htruthy fun value => completes_strMethod fun text => ?_
  simp only [HasLabels, Nat.forall_lt_succ_left]
  exact completes_labelledToken fun _ => completes_labelledToken fun _ =>
    completes_labelledToken fun _ => completes_labelledToken fun _ =>
    completes_labelledToken fun _ => completes_labelledToken fun _ => by simp

lemma completes_extractUserBlockedCallVariables (htruthy : payload.truthy = true) :
    Completes (extractUserBlockedCallVariables x payload) ↔
      HasExtra (IsText (HasLabels 5)) payload := by
  unfold extractUserBlockedCallVariables
  refine completes_getItem htruthy fun value => completes_strMethod fun text => ?_
  simp only [HasLabels, Nat.forall_lt_succ_left]
  exact completes_labelledToken fun _ => completes_labelledToken fun _ =>
    completes_labelledToken fun _ => completes_labelledToken fun _ =>
    completes_labelledToken fun _ => by simp

lemma truthy_of_hasKeys {keys : List String} (h : ¬ LacksKey keys payload) :
    payload.truthy = true := by
  by_contra hfalsy
  exact h (Or.inl (Bool.eq_false_iff.2 hfalsy))

lemma truthy_of_not_lacksKey {keys : List String} {fields : List (String × Json)}
    (h : ¬ LacksKey keys (.obj fields)) (key : String) (hkey : key ∈ keys) :
    ∃ value, fields.lookup key = some value ∧ value.truthy = true := by
  have htruthy : ((fields.lookup key).getD Json.null).truthy = true := by
    by_contra hfalsy
    exact h (Or.inr ⟨fields, key, rfl, hkey, Bool.eq_false_iff.2 hfalsy⟩)
  cases hlookup : fields.lookup key with
  | none => simp [hlookup, Json.truthy] at htruthy
  | some value => exact ⟨value, rfl, by simpa [hlookup] using htruthy⟩

lemma completes_mixmonitorStart {f : Option (Json × Json) → Except PyError α}
    (hnone : Completes (f none))
    (hsome : ∀ filename id, Completes (f (some (filename, id))) ↔ ∃ path, filename = .str path) :
    Completes (mixmonitorStart x cel >>= f) ↔ Decodes x cel StartsRecording := by
  rw [mixmonitorStart, bind_assoc]
  refine completes_payload fun payload => ?_
  rw [StartsRecording]
  by_cases hlacks : LacksKey ["mixmonitor_id", "filename"] payload
  · rw [isValidMixmonitorStartExtra_eq_false hlacks]
    exact iff_of_true hnone (Or.inl hlacks)
  · rw [or_iff_right hlacks]
    have htruthy := truthy_of_hasKeys hlacks
    unfold isValidMixmonitorStartExtra
    cases payload with
    | obj fields =>
      obtain ⟨id, hid, hidTruthy⟩ := truthy_of_not_lacksKey hlacks "mixmonitor_id" (by decide)
      obtain ⟨filename, hfilename, hfilenameTruthy⟩ :=
        truthy_of_not_lacksKey hlacks "filename" (by decide)
      have hread : Completes (f (some (filename, id))) ↔ ∃ fields' path,
          Json.obj fields = .obj fields' ∧ fields'.lookup "filename" = some (.str path) := by
        simp [hsome, hfilename]
      simpa [getKey, getItem, hid, hfilename, htruthy, hidTruthy, hfilenameTruthy, bind,
        Except.bind, pure, Except.pure] using hread
    | _ => simp [getKey, htruthy, bind, Except.bind]

lemma completes_mixmonitorStop {f : Option Json → Except PyError α}
    (hf : ∀ found, Completes (f found)) :
    Completes (mixmonitorStop x cel >>= f) ↔ Decodes x cel StopsRecording := by
  rw [completes_bind_of_forall hf, mixmonitorStop]
  refine completes_payload fun payload => ?_
  rw [StopsRecording]
  by_cases hlacks : LacksKey ["mixmonitor_id"] payload
  · rw [isValidMixmonitorStopExtra_eq_false hlacks]
    refine iff_of_true (completes_ok none) ?_
    rcases hlacks with hfalsy | ⟨fields, -, hfields, -⟩
    · exact Or.inl hfalsy
    · exact Or.inr ⟨fields, hfields⟩
  · have htruthy := truthy_of_hasKeys hlacks
    unfold isValidMixmonitorStopExtra
    cases payload with
    | obj fields =>
      obtain ⟨id, hid, hidTruthy⟩ := truthy_of_not_lacksKey hlacks "mixmonitor_id" (by decide)
      simp [getKey, getItem, hid, htruthy, hidTruthy, bind, Except.bind, pure, Except.pure]
    | _ => simp [getKey, htruthy, bind, Except.bind]

lemma completes_celBridge : Completes (celBridge x cel) ↔ Decodes x cel NamesBridge := by
  rw [celBridge]
  refine completes_payload fun payload => ?_
  cases htruthy : payload.truthy with
  | false =>
    refine iff_of_true (by simp) ?_
    cases payload with
    | obj fields =>
      obtain rfl : fields = [] := by simpa [Json.truthy] using htruthy
      intro id technology hid
      cases hid
    | arr items =>
      obtain rfl : items = [] := by simpa [Json.truthy] using htruthy
      exact ⟨rfl, by simp⟩
    | str s => trivial
    | _ => exact htruthy
  | true =>
    cases payload with
    | obj fields =>
      simp only [NamesBridge, bridgeInfo]
      cases fields.lookup "bridge_id" with
      | none => simp [bind, Except.bind]
      | some id =>
        cases fields.lookup "bridge_technology" with
        | none => simp [bind, Except.bind]
        | some technology => cases hid : id.hashable <;> simp [bind, Except.bind, hid]
    | arr items =>
      simp only [NamesBridge, bridgeInfo]
      cases hall : items.all Json.hashable with
      | false => simp [bind, Except.bind]
      | true =>
        simp only [if_true, Bool.and_eq_true, List.contains_iff_mem, true_and]
        by_cases hboth : Json.str "bridge_id" ∈ items ∧ Json.str "bridge_technology" ∈ items
        · simp [hboth, bind, Except.bind]
        · simp [hboth, bind, Except.bind]
    | str s => simp [NamesBridge, bridgeInfo, bind, Except.bind]
    | _ => simp [htruthy, NamesBridge, bridgeInfo, bind, Except.bind]

end Accessors

/-! ### The caller's events -/

namespace CallerCELInterpretor

variable {x : Externals} {cel : CEL} {call : RawCallLog}

lemma completes_interpretXivoIncall :
    Completes (interpretXivoIncall x cel call) ↔
      Decodes x cel (HasExtra fun _ => True) := by
  unfold interpretXivoIncall
  exact completes_payload fun payload => completes_unless_falsy fun htruthy =>
    completes_getItem htruthy fun value => by simp

lemma completes_interpretWazoConference :
    Completes (interpretWazoConference x cel call) ↔
      Decodes x cel (HasExtra (IsText NamesConference)) := by
  unfold interpretWazoConference
  refine completes_payload fun payload => completes_unless_falsy fun htruthy =>
    completes_getItem htruthy fun value => completes_strMethod fun text => ?_
  have hseparator : "NAME: ".toList = ['N', 'A', 'M', 'E', ':', ' '] := by decide
  rw [NamesConference, hseparator, ← Text.isSome_splitOnce]
  cases Text.splitOnce ['N', 'A', 'M', 'E', ':', ' '] text.toList with
  | none => simp
  | some p => simp

lemma completes_interpretWazoMeetingName :
    Completes (interpretWazoMeetingName x cel call) ↔
      Decodes x cel (HasExtra fun _ => call.destinationExten ≠ none) := by
  unfold interpretWazoMeetingName
  refine completes_payload fun payload => completes_unless_falsy fun htruthy =>
    completes_getItem htruthy fun value => ?_
  cases hexten : call.destinationExten with
  | none => simp
  | some exten =>
    simp only [ne_eq, reduceCtorEq, not_false_eq_true, iff_true]
    split <;> simp

lemma completes_interpretWazoUserMissedCall :
    Completes (interpretWazoUserMissedCall x cel call) ↔
      Decodes x cel (HasExtra (IsText (HasLabels 6))) := by
  unfold interpretWazoUserMissedCall
  refine completes_payload fun payload => completes_unless_falsy fun htruthy => ?_
  rw [completes_bind_of_forall fun v => completes_pure _]
  exact completes_extractUserMissedCallVariables htruthy

lemma completes_interpretWazoUserBlockedCall :
    Completes (interpretWazoUserBlockedCall x cel call) ↔
      Decodes x cel (HasExtra (IsText (HasLabels 5))) := by
  unfold interpretWazoUserBlockedCall
  refine completes_payload fun payload => completes_unless_falsy fun htruthy => ?_
  rw [completes_bind_of_forall fun v => completes_pure _]
  exact completes_extractUserBlockedCallVariables htruthy

/-- A branch that reads two keys. -/
lemma completes_twoItems {d : Dict String String} {k₁ k₂ : String}
    {f : String → String → RawCallLog} :
    Completes (do
      let a ← dictItem d k₁
      let b ← dictItem d k₂
      pure (f a b)) ↔ d.get? k₁ ≠ none ∧ d.get? k₂ ≠ none := by
  refine (completes_dictItem fun _ => completes_dictItem fun _ =>
    iff_true_intro (completes_pure _)).trans ?_
  rw [and_true]

lemma completes_interpretWazoCallLogDestination :
    Completes (interpretWazoCallLogDestination x cel call) ↔
      Decodes x cel (HasExtra (IsText (DescribesDestination x))) := by
  unfold interpretWazoCallLogDestination
  refine completes_payload fun payload => completes_unless_falsy fun htruthy =>
    completes_extractKeyValuePairsAsDict (P := HasRequiredKeys) htruthy fun d => ?_
  split
  · next htype =>
    refine iff_of_true (completes_pure _) fun type htype' => ?_
    cases htype.symm.trans htype'
  · next htype =>
    rw [hasRequiredKeys_iff htype]
    exact (completes_dictItem fun _ => iff_true_intro (completes_pure _)).trans
      (by simp [requiredKeys])
  · next htype =>
    rw [hasRequiredKeys_iff htype]
    exact completes_twoItems.trans (by simp [requiredKeys])
  · next htype =>
    rw [hasRequiredKeys_iff htype]
    exact completes_twoItems.trans (by simp [requiredKeys])
  · next htype =>
    rw [hasRequiredKeys_iff htype]
    exact completes_twoItems.trans (by simp [requiredKeys])
  · next type hconference huser hmeeting hgroup htype =>
    rw [hasRequiredKeys_iff htype]
    have hnone : requiredKeys type = [] := by
      rw [requiredKeys, if_neg hconference, if_neg (not_or.2 ⟨huser, hmeeting⟩), if_neg hgroup]
    exact iff_of_true (completes_pure _) (by simp [hnone])

lemma completes_interpretWazoCallLogRequestedInternal :
    Completes (interpretWazoCallLogRequestedInternal x cel call) ↔
      Decodes x cel (HasExtra (IsText (HasPairs x))) := by
  unfold interpretWazoCallLogRequestedInternal
  exact completes_payload fun payload => completes_unless_falsy fun htruthy =>
    completes_hasPairs htruthy fun d => completes_pure _

lemma completes_interpretBridgeStartOrEnter :
    Completes (interpretBridgeStartOrEnter x cel call) ↔ Decodes x cel NamesBridge := by
  unfold interpretBridgeStartOrEnter
  exact (completes_bind_of_forall fun _ => completes_pure _).trans completes_celBridge

lemma completes_interpretMixmonitorStart :
    Completes (interpretMixmonitorStart x cel call) ↔
      Decodes x cel StartsRecording := by
  unfold interpretMixmonitorStart
  refine completes_mixmonitorStart (completes_pure call) fun filename id => ?_
  exact (completes_bind_of_forall fun _ => completes_pure _).trans completes_strPattern

lemma completes_interpretMixmonitorStop :
    Completes (interpretMixmonitorStop x cel call) ↔ Decodes x cel StopsRecording := by
  unfold interpretMixmonitorStop
  refine completes_mixmonitorStop fun found => ?_
  cases found with
  | none => exact completes_pure call
  | some id => exact completes_pure _

lemma completes_interpretXivoUserFwd :
    Completes (interpretXivoUserFwd cel call) ↔ cel.extra ≠ none := by
  unfold interpretXivoUserFwd
  cases cel.extra with
  | none => simp
  | some text =>
    refine iff_of_true ?_ (Option.some_ne_none text)
    dsimp only
    split
    · exact completes_ok _
    · split <;> exact completes_ok _

/-- The event can be read when the call is in this state. -/
def Readable (x : Externals) (cel : CEL) (call : RawCallLog) : Prop :=
  match cel.eventtype with
  | .bridgeStart => Decodes x cel NamesBridge
  | .bridgeEnter => Decodes x cel NamesBridge
  | .mixmonitorStart => Decodes x cel StartsRecording
  | .mixmonitorStop => Decodes x cel StopsRecording
  | .xivoIncall => Decodes x cel (HasExtra fun _ => True)
  | .xivoUserFwd => cel.extra ≠ none
  | .wazoMeetingName =>
      Decodes x cel (HasExtra fun _ => call.destinationExten ≠ none)
  | .wazoConference => Decodes x cel (HasExtra (IsText NamesConference))
  | .wazoUserMissedCall => Decodes x cel (HasExtra (IsText (HasLabels 6)))
  | .wazoUserBlockedCall => Decodes x cel (HasExtra (IsText (HasLabels 5)))
  | .wazoCallLogDestination =>
      Decodes x cel (HasExtra (IsText (DescribesDestination x)))
  | .wazoCallLogRequestedInternal => Decodes x cel (HasExtra (IsText (HasPairs x)))
  | _ => True

lemma completes_interpretCel : Completes (interpretCel x cel call) ↔ Readable x cel call := by
  unfold interpretCel Readable
  cases cel.eventtype with
  | bridgeStart => exact completes_interpretBridgeStartOrEnter
  | bridgeEnter => exact completes_interpretBridgeStartOrEnter
  | mixmonitorStart => exact completes_interpretMixmonitorStart
  | mixmonitorStop => exact completes_interpretMixmonitorStop
  | xivoIncall => exact completes_interpretXivoIncall
  | xivoUserFwd => exact completes_interpretXivoUserFwd
  | wazoMeetingName => exact completes_interpretWazoMeetingName
  | wazoConference => exact completes_interpretWazoConference
  | wazoUserMissedCall => exact completes_interpretWazoUserMissedCall
  | wazoUserBlockedCall => exact completes_interpretWazoUserBlockedCall
  | wazoCallLogDestination => exact completes_interpretWazoCallLogDestination
  | wazoCallLogRequestedInternal => exact completes_interpretWazoCallLogRequestedInternal
  | _ => exact iff_of_true (completes_ok _) trivial

end CallerCELInterpretor

/-! ### The callee's events -/

namespace CalleeCELInterpretor

variable {x : Externals} {cel : CEL} {call : RawCallLog}

/-- The caller id of a channel with peers is known, or is not asked for. -/
def KnowsChannel (cel : CEL) (call : RawCallLog) : Prop :=
  cel.peer = "" ∨ call.authoritativeDestinationInfo = true ∨
    call.callerIdByChannels.get? cel.channame ≠ none

lemma completes_interpretBridgeEnter :
    Completes (interpretBridgeEnter x cel call) ↔
      Decodes x cel NamesBridge ∧ KnowsChannel cel call := by
  unfold interpretBridgeEnter
  refine (completes_bind_and fun _ => ?_).trans (and_congr_left' completes_celBridge)
  dsimp only
  split
  · next hpeer => exact iff_of_true (completes_pure _) (Or.inl hpeer)
  · next hpeer =>
    -- what comes before keeps the caller ids and the authority
    rw [KnowsChannel, or_iff_right hpeer]
    simp only [answerPeers, setDestinationFromFirstBridge_lookup, RawCallLog.updateParticipant]
    cases call.authoritativeDestinationInfo with
    | true => simp
    | false =>
      cases call.callerIdByChannels.get? cel.channame with
      | none => simp
      | some callerId => simp

lemma completes_interpretMixmonitorStart :
    Completes (interpretMixmonitorStart x cel call) ↔
      Decodes x cel StartsRecording := by
  unfold interpretMixmonitorStart
  refine completes_mixmonitorStart (completes_pure call) fun filename id => ?_
  exact (completes_bind_of_forall fun _ => completes_pure _).trans completes_strPattern

lemma completes_interpretRequestedInternal :
    Completes (interpretRequestedInternal x cel call) ↔
      Decodes x cel (HasExtra (IsText (HasPairs x))) := by
  unfold interpretRequestedInternal
  exact completes_payload fun payload => completes_unless_falsy fun htruthy =>
    completes_hasPairs htruthy fun d => completes_pure _

/-- The event can be read when the call is in this state. -/
def Readable (x : Externals) (cel : CEL) (call : RawCallLog) : Prop :=
  match cel.eventtype with
  | .bridgeStart => Decodes x cel NamesBridge ∧ KnowsChannel cel call
  | .bridgeEnter => Decodes x cel NamesBridge ∧ KnowsChannel cel call
  | .mixmonitorStart => Decodes x cel StartsRecording
  | .mixmonitorStop => Decodes x cel StopsRecording
  | .wazoCallLogRequestedInternal => Decodes x cel (HasExtra (IsText (HasPairs x)))
  | _ => True

lemma completes_interpretCel : Completes (interpretCel x cel call) ↔ Readable x cel call := by
  unfold interpretCel Readable
  cases cel.eventtype with
  | bridgeStart => exact completes_interpretBridgeEnter
  | bridgeEnter => exact completes_interpretBridgeEnter
  | mixmonitorStart => exact completes_interpretMixmonitorStart
  | mixmonitorStop => exact CallerCELInterpretor.completes_interpretMixmonitorStop
  | wazoCallLogRequestedInternal => exact completes_interpretRequestedInternal
  | _ => exact iff_of_true (completes_ok _) trivial

end CalleeCELInterpretor

/-! ### Whole runs -/

/-- A call is interpreted to its end if and only if each of its events can be read in the
state before it. -/
theorem completes_interpretCels_iff (x : Externals) (cels : List CEL) (call : RawCallLog) :
    (Completes (CallerCELInterpretor.interpretCels x cels call) ↔
      ∀ done cel rest, cels = done ++ cel :: rest →
        ∀ state, CallerCELInterpretor.interpretCels x done call = .ok state →
          CallerCELInterpretor.Readable x cel state) ∧
    (Completes (CalleeCELInterpretor.interpretCels x cels call) ↔
      ∀ done cel rest, cels = done ++ cel :: rest →
        ∀ state, CalleeCELInterpretor.interpretCels x done call = .ok state →
          CalleeCELInterpretor.Readable x cel state) := by
  refine ⟨(completes_foldlM cels call).trans ?_, (completes_foldlM cels call).trans ?_⟩
  · simp only [CallerCELInterpretor.completes_interpretCel]
    rfl
  · simp only [CalleeCELInterpretor.completes_interpretCel]
    rfl

/-- An incoming call whose payload is an object without `extra`. -/
def incallWithoutExtra : CEL :=
  { plainEvent 2 "1.1" "PJSIP/alice-00000001" .xivoIncall with
    extra := some "\x7b\"tenant_uuid\": \"1\"\x7d" }

/-- The handler raises `KeyError`. -/
theorem interpretCels_incallWithoutExtra :
    extractCelExtra .ascii incallWithoutExtra.extra =
        .ok (.obj [("tenant_uuid", .str "1")]) ∧
      ¬ Completes (CallerCELInterpretor.interpretCels .ascii
        [plainEvent 1 "1.1" "PJSIP/alice-00000001" .chanStart, incallWithoutExtra] {}) := by
  have hextra : extractCelExtra .ascii incallWithoutExtra.extra =
      .ok (.obj [("tenant_uuid", .str "1")]) := by
    decide +kernel
  have hraises : ∀ state, ¬ Completes (CallerCELInterpretor.interpretCel .ascii
      incallWithoutExtra state) := by
    intro state h
    have htype : incallWithoutExtra.eventtype = .xivoIncall := rfl
    rw [CallerCELInterpretor.completes_interpretCel, CallerCELInterpretor.Readable, htype] at h
    obtain ⟨payload, hpayload, h⟩ := h
    obtain rfl := Except.ok.inj (hextra.symm.trans hpayload)
    rcases h with hfalsy | ⟨fields, value, hfields, hlookup, -⟩
    · cases hfalsy
    · cases hfields
      cases hlookup
  refine ⟨hextra, fun h => ?_⟩
  have hstart : CallerCELInterpretor.interpretCels .ascii
      [plainEvent 1 "1.1" "PJSIP/alice-00000001" .chanStart] {} = .ok
        (CallerCELInterpretor.interpretChanStart .ascii
          (plainEvent 1 "1.1" "PJSIP/alice-00000001" .chanStart) {}) := rfl
  exact hraises _ ((completes_foldlM _ _).1 h _ incallWithoutExtra [] rfl _ hstart)

end CallLogd
