/-
The names of destinations, and the keys that they can bring along.

The name comes last in the payload of a WAZO_CALL_LOG_DESTINATION event, and a later key
replaces an earlier one: a name is harmless if its own keys repeat what was said before.
-/
import CallLogd.Interpretor.Caller
import CallLogd.Interpretor.KeyPairs
import CallLogd.Lib.Results

namespace CallLogd

open Results

/-! ### Dictionaries of pairs -/

lemma get?_dictOfPairs_append (ps qs : List (String × String)) (key : String) :
    (dictOfPairs (ps ++ qs)).get? key =
      ((dictOfPairs qs).get? key).or ((dictOfPairs ps).get? key) := by
  induction qs using List.reverseRecOn with
  | nil =>
    rw [List.append_nil]
    rfl
  | append_singleton qs q ih =>
    have hset : ∀ ps : List (String × String), (dictOfPairs (ps ++ [q])).get? key =
        if key = q.1 then some q.2 else (dictOfPairs ps).get? key := by
      intro ps
      rw [dictOfPairs, List.foldl_append]
      exact Dict.get?_set
    rw [← List.append_assoc, hset, hset]
    split
    · rfl
    · exact ih

lemma get?_dictOfPairs_cons_isSome (p : String × String) (ps : List (String × String)) :
    ((dictOfPairs (p :: ps)).get? p.1).isSome := by
  have hsplit := get?_dictOfPairs_append [p] ps p.1
  have hself : (dictOfPairs [p]).get? p.1 = some p.2 := by simp [dictOfPairs, Dict.get?_set]
  rw [List.singleton_append, hself] at hsplit
  rw [hsplit]
  cases (dictOfPairs ps).get? p.1 <;> rfl

/-! ### Payloads -/

/-- The destinations that have a free name. -/
inductive DestinationKind where
  | user
  | group
  | meeting
deriving DecidableEq, Repr

namespace DestinationKind

def text : DestinationKind → String
  | user => "user"
  | group => "group"
  | meeting => "meeting"

/-- The key of the identifier in the payload. -/
def idKey : DestinationKind → String
  | user => "uuid"
  | group => "id"
  | meeting => "uuid"

/-- The key of the name in the payload. -/
def nameKey : DestinationKind → String
  | user => "name"
  | group => "label"
  | meeting => "name"

/-- The key of the identifier in the details of the destination. -/
def detailKey : DestinationKind → String
  | user => "user_uuid"
  | group => "group_id"
  | meeting => "meeting_uuid"

/-- The text of the payload. -/
def payload (kind : DestinationKind) (id name : String) : String :=
  String.ofList (pairText ("type", kind.text) ++ ',' :: (pairText (kind.idKey, id) ++
    ',' :: pairText (kind.nameKey, name)))

end DestinationKind

example : DestinationKind.user.payload "0a5bd3a4" "Bob" =
    "type: user,uuid: 0a5bd3a4,name: Bob" := by
  decide

example : DestinationKind.group.payload "2" "sales" = "type: group,id: 2,label: sales" := by
  decide

/-- The text of the payload of an event. -/
def payloadText (x : Externals) (cel : CEL) : Option String :=
  match extractCelExtra x cel.extra with
  | .ok (.obj fields) => match fields.lookup "extra" with
      | some (.str text) => some text
      | _ => none
  | _ => none

/-- The text of an identifier has no commas and no white space. -/
def IsId (id : String) : Prop := ∀ c ∈ id.toList, c ≠ ',' ∧ Text.isSpace c = false

variable {x : Externals} {kind : DestinationKind} {id name : String} {cel : CEL}
  {call : RawCallLog}

lemma IsId.isValue (h : IsId id) : IsValue x id.toList := by
  refine ⟨fun c hc => (h c (List.mem_of_head? hc)).2, fun c hc => ?_, ?_⟩
  · obtain ⟨hcomma, hspace⟩ := h c (List.mem_of_getLast? hc)
    exact ⟨hspace, hcomma⟩
  · rintro ⟨before, blanks, key, after, hsplit, -⟩
    have hmem : ',' ∈ id.toList := by
      rw [hsplit]
      simp
    exact (h ',' hmem).1 rfl

/-- What a name says by itself: its key, and the keys that it brings along. -/
def nameDict (x : Externals) (kind : DestinationKind) (name : String) : Dict String String :=
  dictOfPairs (parseKeyPairSequence x (String.ofList (pairText (kind.nameKey, name))))

lemma isKey_of_ascii (hx : x.LawfulAlnum) {key : String} (hne : key.toList ≠ [])
    (h : ∀ c ∈ key.toList, c.toNat < 128 ∧ (c.isAlphanum || c == '_') = true) :
    IsKey x key.toList := by
  refine ⟨hne, fun c hc => ?_⟩
  rw [isWord, hx.ascii c (h c hc).1]
  exact (h c hc).2

/-- The payload is the type, the identifier, and what the name says. -/
lemma parse_payload (hx : x.LawfulAlnum) (hid : IsId id) :
    parseKeyPairSequence x (kind.payload id name) =
      [("type", kind.text), (kind.idKey, id)] ++
        parseKeyPairSequence x (String.ofList (pairText (kind.nameKey, name))) := by
  have htype : IsPair x ("type", kind.text) := by
    have hkey : IsKey x "type".toList := isKey_of_ascii hx (by decide) (by decide)
    refine ⟨hkey, IsId.isValue ?_⟩
    cases kind <;> unfold IsId <;> decide
  have hidKey : IsKey x kind.idKey.toList := by
    cases kind <;> exact isKey_of_ascii hx (by decide) (by decide)
  have hnameKey : IsKey x kind.nameKey.toList := by
    cases kind <;> exact isKey_of_ascii hx (by decide) (by decide)
  have hsecond := parse_pairText_comma hx (p := (kind.idKey, id)) (q := (kind.nameKey, name))
    ⟨hidKey, hid.isValue⟩ hnameKey []
  rw [List.append_nil] at hsecond
  rw [DestinationKind.payload, parse_pairText_comma hx htype hidKey, hsecond, List.cons_append,
    List.singleton_append]

lemma nameDict_nameKey_isSome (hx : x.LawfulAlnum) (kind : DestinationKind) (name : String) :
    ((nameDict x kind name).get? kind.nameKey).isSome := by
  have hnameKey : IsKey x kind.nameKey.toList := by
    cases kind <;> exact isKey_of_ascii hx (by decide) (by decide)
  have hfirst : keyAt x (pairText (kind.nameKey, name)) =
      some (kind.nameKey.toList, ' ' :: name.toList) := keyAt_append hx hnameKey _
  rw [nameDict, parseKeyPairSequence_of_keyAt hx hfirst]
  cases (pieces x 0 (' ' :: name.toList)).2 with
  | nil =>
    rw [trimPieces, String.ofList_toList]
    exact get?_dictOfPairs_cons_isSome (kind.nameKey, _) []
  | cons p ps =>
    rw [trimPieces, String.ofList_toList]
    exact get?_dictOfPairs_cons_isSome (kind.nameKey, _) _

/-- The dictionary of a payload. -/
def payloadDict (x : Externals) (kind : DestinationKind) (id name : String) :
    Dict String String :=
  dictOfPairs (parseKeyPairSequence x (kind.payload id name))

lemma get?_payloadDict (hx : x.LawfulAlnum) (hid : IsId id) (key : String) :
    (payloadDict x kind id name).get? key =
      ((nameDict x kind name).get? key).or
        ((dictOfPairs [("type", kind.text), (kind.idKey, id)]).get? key) := by
  rw [payloadDict, parse_payload hx hid, get?_dictOfPairs_append, nameDict]

/-- The type that the handler reads. -/
def readType (x : Externals) (kind : DestinationKind) (name : String) : String :=
  ((nameDict x kind name).get? "type").getD kind.text

/-- The identifier that the handler reads. -/
def readId (x : Externals) (kind : DestinationKind) (id name : String) : String :=
  ((nameDict x kind name).get? kind.idKey).getD id

lemma payloadDict_type (hx : x.LawfulAlnum) (hid : IsId id) (kind : DestinationKind)
    (name : String) :
    (payloadDict x kind id name).get? "type" = some (readType x kind name) := by
  have hbase : (dictOfPairs [("type", kind.text), (kind.idKey, id)]).get? "type" =
      some kind.text := by
    cases kind <;> simp [dictOfPairs, Dict.get?_set, DestinationKind.idKey]
  rw [get?_payloadDict hx hid, hbase, readType]
  cases (nameDict x kind name).get? "type" <;> rfl

lemma payloadDict_id (hx : x.LawfulAlnum) (hid : IsId id) (kind : DestinationKind)
    (name : String) :
    (payloadDict x kind id name).get? kind.idKey = some (readId x kind id name) := by
  have hbase : (dictOfPairs [("type", kind.text), (kind.idKey, id)]).get? kind.idKey =
      some id := by simp [dictOfPairs, Dict.get?_set]
  rw [get?_payloadDict hx hid, hbase, readId]
  cases (nameDict x kind name).get? kind.idKey <;> rfl

lemma payloadDict_name (hx : x.LawfulAlnum) (hid : IsId id) (kind : DestinationKind)
    (name : String) :
    ∃ value, (payloadDict x kind id name).get? kind.nameKey = some value := by
  obtain ⟨value, hvalue⟩ := Option.isSome_iff_exists.1 (nameDict_nameKey_isSome hx kind name)
  refine ⟨value, ?_⟩
  rw [get?_payloadDict hx hid, hvalue]
  rfl

/-- The payload as the handler decodes it. -/
lemma extract_payload (hx : x.LawfulAlnum) (hid : IsId id)
    (hcel : payloadText x cel = some (kind.payload id name)) :
    ∃ extra, extractCelExtra x cel.extra = .ok extra ∧ extra.truthy = true ∧
      extractKeyValuePairsAsDict x extra = .ok (payloadDict x kind id name) := by
  unfold payloadText at hcel
  split at hcel
  · next fields hextra =>
    split at hcel
    · next text hfield =>
      obtain rfl := Option.some.inj hcel
      refine ⟨.obj fields, hextra, ?_, ?_⟩
      · cases fields with
        | nil => cases hfield
        | cons field fields => rfl
      · rw [extractKeyValuePairsAsDict, payloadDict, parse_payload hx hid]
        simp only [hfield, Option.getD_some, strPattern, bind, Except.bind, parse_payload hx hid]
        rfl
    · cases hcel
  · cases hcel

/-! ### What an event tells -/

/-- The details of a destination have its type and its identifier. -/
def HasDetails (kind : DestinationKind) (id : String) (call : RawCallLog) : Prop :=
  call.destinationDetails.lookup "type" = some kind.text ∧
    call.destinationDetails.lookup kind.detailKey = some id

/-- The event makes the destination the one with the identifier, and mentions it if it is a
user. -/
def Tells (kind : DestinationKind) (id : String) (call : RawCallLog)
    (result : Except PyError RawCallLog) : Prop :=
  ∃ call', result = .ok call' ∧ HasDetails kind id call' ∧ (kind = .user →
    ∃ info, call'.participantsInfo = call.participantsInfo ++ [info] ∧ info.userUuid = some id)

/-- The name repeats the type and the identifier, or says neither; or it makes the type an
unknown one, so that the event is ignored, and the destination was known before. -/
def Harmless (x : Externals) (kind : DestinationKind) (id : String) (call : RawCallLog)
    (name : String) : Prop :=
  readType x kind name = kind.text ∧ readId x kind id name = id ∨
    readType x kind name ∉ ["conference", "user", "meeting", "group"] ∧ kind ≠ .user ∧
      HasDetails kind id call

section Decoded

variable {d : Dict String String} {type : String} {extra : Json}

/-- The event is of the kind of the payload. -/
lemma tells_of_sameType (hextra : extractCelExtra x cel.extra = .ok extra)
    (htruthy : extra.truthy = true) (hdict : extractKeyValuePairsAsDict x extra = .ok d)
    (htype : d.get? "type" = some kind.text) {read value : String}
    (hread : d.get? kind.idKey = some read) (hvalue : d.get? kind.nameKey = some value) :
    Tells kind id call (CallerCELInterpretor.interpretWazoCallLogDestination x cel call) ↔
      read = id := by
  have hok : ∃ call', CallerCELInterpretor.interpretWazoCallLogDestination x cel call = .ok call' ∧
      HasDetails kind read call' ∧ (kind = .user → ∃ info,
        call'.participantsInfo = call.participantsInfo ++ [info] ∧ info.userUuid = some read) := by
    unfold CallerCELInterpretor.interpretWazoCallLogDestination
    simp only [hextra, htruthy, hdict, htype, bind, Except.bind, pure, Except.pure, Bool.not_true]
    rw [if_neg (by decide)]
    cases kind with
    | user =>
      simp only [DestinationKind.text, DestinationKind.idKey, DestinationKind.nameKey]
        at hread hvalue ⊢
      simp only [dictItem, hread, hvalue]
      exact ⟨_, rfl, ⟨rfl, rfl⟩, fun _ => ⟨_, rfl, rfl⟩⟩
    | group =>
      simp only [DestinationKind.text, DestinationKind.idKey, DestinationKind.nameKey]
        at hread hvalue ⊢
      simp only [dictItem, hread, hvalue]
      exact ⟨_, rfl, ⟨rfl, rfl⟩, fun h => by cases h⟩
    | meeting =>
      simp only [DestinationKind.text, DestinationKind.idKey, DestinationKind.nameKey]
        at hread hvalue ⊢
      simp only [dictItem, hread, hvalue]
      exact ⟨_, rfl, ⟨rfl, rfl⟩, fun h => by cases h⟩
  obtain ⟨call', hcall', hdetails, hinfo⟩ := hok
  rw [hcall']
  constructor
  · rintro ⟨call'', hcall'', ⟨-, hid⟩, -⟩
    obtain rfl := Except.ok.inj hcall''
    exact Option.some.inj (hdetails.2.symm.trans hid)
  · rintro rfl
    exact ⟨call', rfl, hdetails, hinfo⟩

/-- The event is of a kind that is not that of the payload. -/
lemma not_tells_of_type_ne (hextra : extractCelExtra x cel.extra = .ok extra)
    (htruthy : extra.truthy = true) (hdict : extractKeyValuePairsAsDict x extra = .ok d)
    (htype : d.get? "type" = some type) (hknown : type ∈ ["conference", "user", "meeting", "group"])
    (hne : type ≠ kind.text) :
    ¬ Tells kind id call (CallerCELInterpretor.interpretWazoCallLogDestination x cel call) := by
  have hyields : Yields (CallerCELInterpretor.interpretWazoCallLogDestination x cel call)
      fun call' => call'.destinationDetails.lookup "type" = some type := by
    unfold CallerCELInterpretor.interpretWazoCallLogDestination
    simp only [hextra, htruthy, hdict, htype, bind, Except.bind, pure, Except.pure, Bool.not_true]
    rw [if_neg (by decide)]
    simp only [List.mem_cons, List.not_mem_nil, or_false] at hknown
    rcases hknown with rfl | rfl | rfl | rfl
    · cases dictItem d "id" with
      | error e => exact .error
      | ok _ => exact .ok rfl
    · cases dictItem d "uuid" with
      | error e => exact .error
      | ok _ =>
        cases dictItem d "name" with
        | error e => exact .error
        | ok _ => exact .ok rfl
    · cases dictItem d "uuid" with
      | error e => exact .error
      | ok _ =>
        cases dictItem d "name" with
        | error e => exact .error
        | ok _ => exact .ok rfl
    · cases dictItem d "id" with
      | error e => exact .error
      | ok _ =>
        cases dictItem d "label" with
        | error e => exact .error
        | ok _ => exact .ok rfl
  rintro ⟨call', hcall', ⟨htype', -⟩, -⟩
  exact hne (Option.some.inj ((hyields call' hcall').symm.trans htype'))

/-- An event of an unknown kind is ignored. -/
lemma ignored_of_unknown (hextra : extractCelExtra x cel.extra = .ok extra)
    (htruthy : extra.truthy = true) (hdict : extractKeyValuePairsAsDict x extra = .ok d)
    (htype : d.get? "type" = some type)
    (hunknown : type ∉ ["conference", "user", "meeting", "group"]) :
    CallerCELInterpretor.interpretWazoCallLogDestination x cel call = .ok call := by
  unfold CallerCELInterpretor.interpretWazoCallLogDestination
  simp only [hextra, htruthy, hdict, bind, Except.bind, pure, Except.pure, Bool.not_true]
  rw [if_neg (by decide), htype]
  split
  · rfl
  all_goals
    next h =>
      obtain rfl := Option.some.inj h
      first | exact absurd (by decide) hunknown | rfl

end Decoded

/-- One name tells the destination if and only if it is harmless. -/
lemma tells_iff (hx : x.LawfulAlnum) (hid : IsId id)
    (hcel : payloadText x cel = some (kind.payload id name)) :
    Tells kind id call (CallerCELInterpretor.interpretWazoCallLogDestination x cel call) ↔
      Harmless x kind id call name := by
  obtain ⟨extra, hextra, htruthy, hdict⟩ := extract_payload hx hid hcel
  obtain ⟨value, hvalue⟩ := payloadDict_name hx hid kind name
  have htype := payloadDict_type hx hid kind name
  have hread := payloadDict_id hx hid kind name
  have hkind : kind.text ∈ ["conference", "user", "meeting", "group"] := by cases kind <;> decide
  unfold Harmless
  by_cases hsame : readType x kind name = kind.text
  · rw [hsame] at htype
    rw [tells_of_sameType hextra htruthy hdict htype hread hvalue, hsame]
    simp only [hkind, true_and, not_true_eq_false, false_and, or_false]
  · simp only [hsame, false_and, false_or]
    by_cases hknown : readType x kind name ∈ ["conference", "user", "meeting", "group"]
    · exact iff_of_false (not_tells_of_type_ne hextra htruthy hdict htype hknown hsame)
        fun h => h.1 hknown
    · rw [ignored_of_unknown hextra htruthy hdict htype hknown]
      constructor
      · rintro ⟨call', hcall', hdetails, hinfo⟩
        obtain rfl := Except.ok.inj hcall'
        refine ⟨hknown, fun huser => ?_, hdetails⟩
        obtain ⟨info, hinfos, -⟩ := hinfo huser
        simp at hinfos
      · rintro ⟨-, huser, hdetails⟩
        exact ⟨call, rfl, hdetails, fun h => absurd h huser⟩

/-- A name without keys is harmless. -/
lemma harmless_of_noKey (hx : x.LawfulAlnum) (hname : ¬ HasKey x name.toList) :
    Harmless x kind id call name := by
  have hnameKey : IsKey x kind.nameKey.toList := by
    cases kind <;> exact isKey_of_ascii hx (by decide) (by decide)
  have hparse := parse_pairText_append hx (p := (kind.nameKey, name)) hnameKey hname
    fun d (hd : ([] : List Char).head? = some d) => by cases hd
  rw [List.append_nil] at hparse
  have hdict : ∀ key, key ≠ kind.nameKey → (nameDict x kind name).get? key = none := by
    intro key hkey
    rw [nameDict, hparse, pieces, trimPieces, String.ofList_toList]
    simp [dictOfPairs, Dict.get?_set, hkey]
    rfl
  refine Or.inl ⟨?_, ?_⟩
  · rw [readType, hdict _ (by cases kind <;> decide), Option.getD_none]
  · rw [readId, hdict _ (by cases kind <;> decide), Option.getD_none]

/-- Two names of a destination tell the same if and only if both are harmless. -/
theorem tells_both_iff (x : Externals) (hx : x.LawfulAlnum) (kind : DestinationKind)
    (id name₁ name₂ : String) (cel₁ cel₂ : CEL) (call : RawCallLog) (hid : IsId id)
    (hcel₁ : payloadText x cel₁ = some (kind.payload id name₁))
    (hcel₂ : payloadText x cel₂ = some (kind.payload id name₂)) :
    (Tells kind id call (CallerCELInterpretor.interpretWazoCallLogDestination x cel₁ call) ∧
      Tells kind id call (CallerCELInterpretor.interpretWazoCallLogDestination x cel₂ call)) ↔
        Harmless x kind id call name₁ ∧ Harmless x kind id call name₂ := by
  rw [tells_iff hx hid hcel₁, tells_iff hx hid hcel₂]

/-- A destination whose name needs no escapes. -/
def namedDestination (kind : DestinationKind) (id name : String) : CEL where
  id := 2
  eventtype := .wazoCallLogDestination
  eventtime := 2
  channame := "PJSIP/alice-00000001"
  uniqueid := "1386184858.1"
  linkedid := "1386184858.1"
  extra := some ("\x7b\"extra\": \"" ++ kind.payload id name ++ "\"\x7d")

instance (id : String) : Decidable (IsId id) :=
  inferInstanceAs (Decidable (∀ c ∈ id.toList, _))

theorem tells_both_plainNames :
    Tells .user "0a5bd3a4" {} (CallerCELInterpretor.interpretWazoCallLogDestination .ascii
        (namedDestination .user "0a5bd3a4" "Bob") {}) ∧
      Tells .user "0a5bd3a4" {} (CallerCELInterpretor.interpretWazoCallLogDestination .ascii
        (namedDestination .user "0a5bd3a4" "Bob, uuid") {}) :=
  (tells_both_iff .ascii lawfulAlnum_ascii .user "0a5bd3a4" "Bob" "Bob, uuid" _ _ {} (by decide)
    (by decide +kernel) (by decide +kernel)).2
    ⟨harmless_of_noKey lawfulAlnum_ascii ((hasKey_iff lawfulAlnum_ascii).not.2 (by decide)),
      harmless_of_noKey lawfulAlnum_ascii ((hasKey_iff lawfulAlnum_ascii).not.2 (by decide))⟩

/-- The name of a user makes another user the destination. -/
theorem not_tells_name :
    payloadText .ascii (namedDestination .user "0a5bd3a4" "Bob,uuid: 71ea0bc2") =
        some (DestinationKind.user.payload "0a5bd3a4" "Bob,uuid: 71ea0bc2") ∧
      ¬ Tells .user "0a5bd3a4" {} (CallerCELInterpretor.interpretWazoCallLogDestination .ascii
        (namedDestination .user "0a5bd3a4" "Bob,uuid: 71ea0bc2") {}) := by
  have hrun : ∃ call', CallerCELInterpretor.interpretWazoCallLogDestination .ascii
      (namedDestination .user "0a5bd3a4" "Bob,uuid: 71ea0bc2") {} = .ok call' ∧
        call'.destinationDetails.lookup "user_uuid" = some "71ea0bc2" :=
    exists_of_map_eq_ok (g := fun call : RawCallLog => call.destinationDetails.lookup "user_uuid")
      (by decide +kernel)
  obtain ⟨call', hcall', hread⟩ := hrun
  refine ⟨by decide +kernel, ?_⟩
  rintro ⟨call'', hcall'', ⟨-, hid⟩, -⟩
  obtain rfl := Except.ok.inj (hcall'.symm.trans hcall'')
  exact absurd (hread.symm.trans hid) (by decide)

end CallLogd
