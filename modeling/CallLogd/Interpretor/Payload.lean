/-
Payloads of the events: the first part of `cel_interpretor.py`.

A decoded payload is a JSON value, `null` standing for `None`.  The accessors
raise what Python raises when the value is not of the expected kind.
-/
import CallLogd.RawCallLog
import CallLogd.Lib.Regex

namespace CallLogd

open Regex

/-! ### Access to decoded values -/

/-- `value[key]`. -/
def getItem (value : Json) (key : String) : Except PyError Json :=
  match value with
  | .obj fields => match fields.lookup key with
      | some v => .ok v
      | none => .error (.keyError key)
  | _ => .error .typeError

/-- `value.get(key)`. -/
def getKey (value : Json) (key : String) : Except PyError Json :=
  match value with
  | .obj fields => .ok ((fields.lookup key).getD Json.null)
  | _ => .error .attributeError

/-- The string on which a method is called. -/
def strMethod (value : Json) : Except PyError String :=
  match value with
  | .str s => .ok s
  | _ => .error .attributeError

/-- The string to which a pattern is applied. -/
def strPattern (value : Json) : Except PyError String :=
  match value with
  | .str s => .ok s
  | _ => .error .typeError

/-- `tokens[i]`. -/
def getIndex (tokens : List String) (i : ℕ) : Except PyError String :=
  match tokens[i]? with
  | some t => .ok t
  | none => .error .indexError

/-- `extract_cel_extra`: a text that is no JSON is ignored, and nothing else is caught. -/
def extractCelExtra (x : Externals) (extra : Option String) : Except PyError Json :=
  match extra with
  | none => .ok .null
  | some text =>
      if text = "" then .ok .null
      else match Json.loads x.jsonLimits text with
        | .ok extra => .ok extra
        | .error .jsonDecodeError => .ok .null
        | .error .valueError => .error .valueError
        | .error .recursionError => .error .recursionError

/-! ### Patterns -/

/-- `EXTRA_USER_FWD_REGEX`. -/
def extraUserFwdRegex : Regex :=
  let blanks := many (· == ' ')
  let comma := cls (· == ',')
  seq bos <| seq (many dot) <| seq (lit "NUM:") <| seq blanks <| seq (group 1 (fewest dot)) <|
  seq blanks <| seq comma <| seq blanks <| seq (lit "CONTEXT:") <| seq blanks <|
  seq (group 2 (fewest dot)) <| seq blanks <| seq comma <| seq blanks <|
  seq (lit "NAME:") <| seq blanks <| seq (group 3 (fewest dot)) <| seq blanks <|
  alt comma (lit "\"\x7d")

/-- The class `\S`. -/
def notSpace (c : Char) : Bool := !Text.isSpace c

/-- `WAIT_FOR_MOBILE_REGEX`. -/
def waitForMobileRegex : Regex :=
  seq bos <| seq (lit "Local/") <| seq (group 1 (many1 notSpace)) <|
  seq (lit "@wazo_wait_for_registration-") <| seq (many1 notSpace) <| seq (lit ";2") eos

/-- `MATCHING_MOBILE_PEER_REGEX`. -/
def matchingMobilePeerRegex : Regex :=
  seq bos <| seq (lit "PJSIP/") <| seq (group 1 (many1 notSpace)) <| seq (lit "-") <|
  seq (many1 notSpace) eos

/-- `MEETING_EXTENSION_REGEX`. -/
def meetingExtensionRegex : Regex :=
  seq bos <| seq (lit "wazo-meeting-") <| seq (many dot) eos

/-- `KEY_PAIR_KEY_REGEX`. -/
def keyPairKeyRegex (x : Externals) : Regex :=
  seq (alt bos (seq (cls (· == ',')) (many Text.isSpace))) <|
  seq (group 1 (many1 fun c => x.isAlnum c || c == '_')) (cls (· == ':'))

/-- A hexadecimal digit in lower case. -/
def isHexDigit (c : Char) : Bool := ('0' ≤ c ∧ c ≤ '9') ∨ ('a' ≤ c ∧ c ≤ 'f')

/-- `UUID_REGEX`. -/
def uuidRegex : Regex :=
  seq (times isHexDigit 8) <| seq (lit "-") <| seq (times isHexDigit 4) <| seq (lit "-") <|
  seq (cls fun c => '0' ≤ c ∧ c ≤ '5') <| seq (times isHexDigit 3) <| seq (lit "-") <|
  seq (cls fun c => ['0', '8', '9', 'a', 'b'].contains c) <| seq (times isHexDigit 3) <|
  seq (lit "-") (times isHexDigit 12)

/-- `RECORDING_PATH_REGEX`. -/
def recordingPathRegex : Regex :=
  seq (lit "/var/lib/wazo/sounds/tenants/") <| seq (group 1 uuidRegex) <|
  seq (lit "/monitor/") <| seq (group 2 uuidRegex) <| seq (cls dot) (lit "wav")

/-- The uuid that the path of a recording contains. -/
def recordingPathUuid (path : String) : Option String :=
  (matchStart recordingPathRegex path.toList).map fun caps => String.ofList (caps.get 2)

/-! ### Key pairs -/

/-- The values between the keys that were found: each one reaches to the next
key, the last one to the end of the text. -/
def keyPairValues (text : List Char) : List Found → List (String × String)
  | [] => []
  | [m] => [(String.ofList (m.caps.get 1), String.ofList (Text.strip (text.drop m.stop)))]
  | m₁ :: m₂ :: ms =>
      let value := (text.take m₂.start).drop m₁.stop
      (String.ofList (m₁.caps.get 1),
        String.ofList ((Text.strip value).rdropWhile (· == ','))) :: keyPairValues text (m₂ :: ms)

/-- `parse_key_pair_sequence`. -/
def parseKeyPairSequence (x : Externals) (text : String) : List (String × String) :=
  keyPairValues text.toList (finditer (keyPairKeyRegex x) text.toList)

/-- `dict(key_pairs)`: the last of several equal keys wins. -/
def dictOfPairs (pairs : List (String × String)) : Dict String String :=
  pairs.foldl (fun d p => d.set p.1 p.2) []

/-- `extra_dict[key]`. -/
def dictItem (d : Dict String String) (key : String) : Except PyError String :=
  match d.get? key with
  | some v => .ok v
  | none => .error (.keyError key)

/-- `extract_key_value_pairs_as_dict`. -/
def extractKeyValuePairsAsDict (x : Externals) (extra : Json) :
    Except PyError (Dict String String) := do
  let text ← match extra with
    | .obj fields => strPattern ((fields.lookup "extra").getD (.str ""))
    | _ => .error .attributeError
  match parseKeyPairSequence x text with
  | [] => .error (.invalidCallLog "Missing expected keys in CEL extra payload")
  | pairs => .ok (dictOfPairs pairs)

/-! ### Mixmonitor payloads -/

/-- `is_valid_mixmonitor_start_extra`. -/
def isValidMixmonitorStartExtra (extra : Json) : Except PyError Bool := do
  if !extra.truthy then return false
  if !(← getKey extra "mixmonitor_id").truthy then return false
  if !(← getKey extra "filename").truthy then return false
  return true

/-- `is_valid_mixmonitor_stop_extra`. -/
def isValidMixmonitorStopExtra (extra : Json) : Except PyError Bool := do
  if !extra.truthy then return false
  if !(← getKey extra "mixmonitor_id").truthy then return false
  return true

/-- The file name and the identifier of a valid MIXMONITOR_START event, which is
what every interpretor reads of it; `none` if the event is to be ignored. -/
def mixmonitorStart (x : Externals) (cel : CEL) : Except PyError (Option (Json × Json)) := do
  let extra ← extractCelExtra x cel.extra
  if !(← isValidMixmonitorStartExtra extra) then return none
  return some (← getItem extra "filename", ← getItem extra "mixmonitor_id")

/-- The identifier of a valid MIXMONITOR_STOP event. -/
def mixmonitorStop (x : Externals) (cel : CEL) : Except PyError (Option Json) := do
  let extra ← extractCelExtra x cel.extra
  if !(← isValidMixmonitorStopExtra extra) then return none
  return some (← getItem extra "mixmonitor_id")

/-! ### Other payloads -/

/-- The part of `BridgeInfo` that is read: the technology of the bridge. -/
structure BridgeInfo where
  id : Json
  technology : Json

/-- `bridge_info`. -/
def bridgeInfo (details : Json) : Except PyError (Option BridgeInfo) :=
  match details with
  | .obj fields =>
      match fields.lookup "bridge_id", fields.lookup "bridge_technology" with
      | some id, some technology => .ok (some ⟨id, technology⟩)
      | _, _ => .ok none
  -- the characters of a string are never the expected keys
  | .str _ => .ok none
  -- a list is made into a set, and is then subscripted with a string
  | .arr items =>
      if items.all Json.hashable then
        if items.contains (.str "bridge_id") && items.contains (.str "bridge_technology") then
          .error .typeError
        else .ok none
      else .error .typeError
  | _ => .error .typeError

/-- The bridge of a BRIDGE_START or BRIDGE_ENTER event, which both interpretors
then use as a key of `call.bridges`. -/
def celBridge (x : Externals) (cel : CEL) : Except PyError (Option BridgeInfo) := do
  let extra ← extractCelExtra x cel.extra
  if !extra.truthy then return none
  match ← bridgeInfo extra with
  | none => return none
  | some bridge =>
      if bridge.id.hashable then return some bridge else throw .typeError

/-- `tokens[i].split(': ')[1]`. -/
def labelledToken (tokens : List String) (i : ℕ) : Except PyError String := do
  getIndex (Text.splitString ": " (← getIndex tokens i)) 1

/-- The variables of a WAZO_USER_MISSED_CALL event. -/
structure UserMissedCall where
  wazoTenantUuid : String
  sourceUserUuid : String
  destinationUserUuid : String
  destinationExten : String
  sourceName : String
  destinationName : String

/-- `_extract_user_missed_call_variables`. -/
def extractUserMissedCallVariables (x : Externals) (extra : Json) :
    Except PyError UserMissedCall := do
  let extraTokens := Text.splitString "," (← strMethod (← getItem extra "extra"))
  let wazoTenantUuid ← labelledToken extraTokens 0
  let sourceUserUuid ← labelledToken extraTokens 1
  let destinationUserUuid ← labelledToken extraTokens 2
  let destinationExten ← labelledToken extraTokens 3
  let sourceName := x.unquote (← labelledToken extraTokens 4)
  let destinationName := x.unquote (← labelledToken extraTokens 5)
  return { wazoTenantUuid, sourceUserUuid, destinationUserUuid, destinationExten, sourceName,
           destinationName }

/-- The variables of a WAZO_USER_BLOCKED_CALL event. -/
structure UserBlockedCall where
  wazoTenantUuid : String
  destinationUserUuid : String
  sourceCalleridName : String
  sourceCalleridNum : String
  blockedNumberUuid : String

/-- `_extract_user_blocked_call_variables`. -/
def extractUserBlockedCallVariables (x : Externals) (extra : Json) :
    Except PyError UserBlockedCall := do
  let extraTokens := Text.splitString "," (← strMethod (← getItem extra "extra"))
  let wazoTenantUuid ← labelledToken extraTokens 0
  let destinationUserUuid ← labelledToken extraTokens 1
  let sourceCalleridName := x.unquote (← labelledToken extraTokens 2)
  let sourceCalleridNum := x.unquote (← labelledToken extraTokens 3)
  let blockedNumberUuid ← labelledToken extraTokens 4
  return { wazoTenantUuid, destinationUserUuid, sourceCalleridName, sourceCalleridNum,
           blockedNumberUuid }

/-- `OriginateAllLinesInfo`. -/
structure OriginateAllLinesInfo where
  userUuid : String
  tenantUuid : String

/-- `_extract_originate_all_lines_variables`; `none` is the result `None`. -/
def extractOriginateAllLinesVariables (x : Externals) (extra : Json) :
    Except PyError (Option OriginateAllLinesInfo) := do
  let rawData ← match extra with
    | .obj fields =>
        match fields.lookup "extra" with
        | some v => pure (some v)
        | none => pure none
    -- `'extra' not in extra` on a list or a string, then a subscript
    | .arr items => if items.contains (.str "extra") then throw .typeError else pure none
    | .str s =>
        if (Text.splitOnce "extra".toList s.toList).isSome then throw .typeError else pure none
    | _ => throw .typeError
  match rawData with
  | none => return none
  | some rawData =>
      let keyPairs := parseKeyPairSequence x (← strPattern rawData)
      if keyPairs.length < 2 then return none
      let info := dictOfPairs keyPairs
      match info.get? "user_uuid", info.get? "tenant_uuid" with
      | some userUuid, some tenantUuid => return some { userUuid, tenantUuid }
      | _, _ => return none

/-- `_parse_wazo_originate_all_lines_extra`; `none` is `CELInterpretationError`,
which the only caller catches. -/
def parseWazoOriginateAllLinesExtra (x : Externals) (extra : Option String) :
    Except PyError (Option OriginateAllLinesInfo) := do
  let wrapper ← extractCelExtra x extra
  if !wrapper.truthy then return none
  extractOriginateAllLinesVariables x wrapper

/-- `interpret_voicemail_app_start`. -/
def interpretVoicemailAppStart (cel : CEL) (call : RawCallLog) : RawCallLog :=
  if Text.lower cel.appname.toList = "voicemail".toList then
    let mailbox := Text.before ['&'] (Text.before [','] cel.appdata.toList)
    let (number, context) := (Text.splitOnce ['@'] mailbox).getD (mailbox, [])
    { call with
      reachedVoicemail := true
      voicemailNumber := if number = [] then none else some (String.ofList number)
      voicemailContext := if context = [] then none else some (String.ofList context) }
  else call

/-- `AbstractCELInterpretor.interpret_cels`, for the handler `interpretCel`. -/
def interpretEach (interpretCel : CEL → RawCallLog → Except PyError RawCallLog)
    (cels : List CEL) (call : RawCallLog) : Except PyError RawCallLog :=
  cels.foldlM (fun call cel => interpretCel cel call) call

end CallLogd
