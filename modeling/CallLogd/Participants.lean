/-
Confd, and the participants of a call log: `participant.py` and the
`_ParticipantsProcessor` of `generator.py`.

The answers of confd are fixed for each request; a request may also raise.
-/
import CallLogd.RawCallLog

namespace CallLogd

/-! ### Confd -/

/-- A line of a user, in confd. -/
structure ConfdUserLine where
  id : ℤ
  extensions : List Extension
deriving DecidableEq, Repr

/-- A user, in confd. -/
structure ConfdUser where
  uuid : String
  tenantUuid : String
  userfield : Option String
  lines : List ConfdUserLine
deriving DecidableEq, Repr

/-- A line with the uuids of its users, in confd. -/
structure ConfdLine where
  id : ℤ
  extensions : List Extension
  users : List String
deriving DecidableEq, Repr

/-- A voicemail, in confd. -/
structure Voicemail where
  id : ℤ
  name : String
deriving DecidableEq, Repr

/-- The key of a voicemail request: number, context and tenant. -/
abbrev VoicemailKey := String × Option String × Option String

/-- The answers of confd to the requests of the service. -/
structure Confd where
  /-- `users.get(user_uuid)`. -/
  user : String → Except PyError ConfdUser
  /-- `lines.list(name=line_name, recurse=True)`. -/
  lines : String → Except PyError (List ConfdLine)
  /-- The tenants of `contexts.list(name=context, recurse=True)`. -/
  contextTenants : String → Except PyError (List String)
  /-- `voicemails.list(number=, context=, recurse=True, tenant_uuid=)`. -/
  voicemails : VoicemailKey → Except PyError (List Voicemail)

/-- A confd without resources. -/
def Confd.empty : Confd where
  user _ := .error .httpError
  lines _ := .ok []
  contextTenants _ := .ok []
  voicemails _ := .ok []

/-- `confd.users.get` in `participant.py`, where an HTTP error is `None`. -/
def Confd.findUser (confd : Confd) (userUuid : String) : Except PyError (Option ConfdUser) :=
  match confd.user userUuid with
  | .ok user => .ok (some user)
  | .error .httpError => .ok none
  | .error e => .error e

/-! ### Participants -/

/-- `get_tags`. -/
def getTags (field : Option String) : List String :=
  match field with
  | none => []
  | some text =>
      if text = "" then []
      else (Text.split [','] text.toList).map fun tag => String.ofList (Text.strip tag)

/-- `find_participant_by_uuid`: without a channel, the main line is provided. -/
def findParticipantByUuid (confd : Confd) (userUuid : String) :
    Except PyError (Option ParticipantInfo) := do
  match ← confd.findUser userUuid with
  | none => return none
  | some user =>
      return some
        { uuid := user.uuid
          tenantUuid := user.tenantUuid
          lineId := user.lines.head?.map (·.id)
          tags := getTags user.userfield
          mainExtension := user.lines.head?.bind fun line => line.extensions.head? }

/-- `find_participant`. -/
def findParticipant (x : Externals) (confd : Confd) (channame : String) :
    Except PyError (Option ParticipantInfo) := do
  match x.protocolInterfaceFromChannel channame with
  | .error .invalidChannel => return none
  | .error e => throw e
  | .ok (protocol, lineName) =>
      if protocol = "Local" then return none
      match ← confd.lines lineName with
      | [] => return none
      | line :: _ =>
          match line.users with
          | [] => return none
          | userUuid :: _ =>
              match ← confd.findUser userUuid with
              | none => return none
              | some user =>
                  return some
                    { uuid := user.uuid
                      tenantUuid := user.tenantUuid
                      lineId := some line.id
                      tags := getTags user.userfield
                      mainExtension := line.extensions.head? }

namespace ParticipantsProcessor

/-- The users that the processor has already fetched. -/
abbrev ConfdParticipants := Dict String ParticipantInfo

/-- `_fetch_participant_from_channel`. -/
def fetchParticipantFromChannel (x : Externals) (confd : Confd) (cache : ConfdParticipants)
    (channel : String) : Except PyError (Option ParticipantInfo × ConfdParticipants) := do
  match ← findParticipant x confd channel with
  | none => return (none, cache)
  | some p => return (some p, cache.set p.uuid p)

/-- `_fetch_participant_from_user_uuid`. -/
def fetchParticipantFromUserUuid (confd : Confd) (cache : ConfdParticipants)
    (userUuid : String) : Except PyError (Option ParticipantInfo × ConfdParticipants) := do
  match cache.get? userUuid with
  | some p => return (some p, cache)
  | none =>
      match ← findParticipantByUuid confd userUuid with
      | none => return (none, cache)
      | some p => return (some p, cache.set userUuid p)

/-- What the loop of `_compute_participants_from_channels` has built so far. -/
structure FromChannels where
  rawParticipants : Dict String RawParticipant := []
  participants : List CallLogParticipant := []
  cache : ConfdParticipants := []

/-- One channel of `_compute_participants_from_channels`: what confd knows is
copied to the attributes of the channel. -/
def participantFromChannel (x : Externals) (confd : Confd) (acc : FromChannels)
    (channel : String × RawParticipant) : Except PyError FromChannels := do
  match ← fetchParticipantFromChannel x confd acc.cache channel.1 with
  | (none, cache) =>
      return { acc with rawParticipants := acc.rawParticipants ++ [channel], cache := cache }
  | (some p, cache) =>
      match channel.2.role with
      | none => throw (.keyError "role")
      | some role =>
          return {
            rawParticipants := acc.rawParticipants ++ [(channel.1, { channel.2 with info := p })]
            participants := acc.participants ++
              [{ userUuid := p.uuid, lineId := p.lineId, tags := p.tags, role := role,
                 answered := channel.2.answered }]
            cache := cache }

/-- `_compute_participants_from_channels`. -/
def computeParticipantsFromChannels (x : Externals) (confd : Confd) (call : RawCallLog) :
    Except PyError FromChannels :=
  call.rawParticipants.foldlM (participantFromChannel x confd) {}

/-- A user mention of the CELs is merged into the participant of its channel. -/
def mergeMention (info : ParticipantsInfo) (p : CallLogParticipant) : CallLogParticipant :=
  { p with
    answered := if p.answered = none then info.answered else p.answered
    requested := some (info.requested.getD false) }

/-- `zip` of the mentions of a user with the participants of that user, which are
updated in place. -/
def mergeMentions (userUuid : String) :
    List ParticipantsInfo → List CallLogParticipant → List CallLogParticipant
  | _, [] => []
  | [], ps => ps
  | info :: infos, p :: ps =>
      if p.userUuid = userUuid then mergeMention info p :: mergeMentions userUuid infos ps
      else p :: mergeMentions userUuid (info :: infos) ps

/-- What the loop of `_fetch_participants` over the users has built so far. -/
structure Participants where
  connected : List CallLogParticipant
  unreached : List CallLogParticipant := []
  cache : ConfdParticipants

/-- One user of `_fetch_participants`. -/
def participantsOfUser (confd : Confd) (participantsInfo : List ParticipantsInfo)
    (acc : Participants) (userUuid : String) : Except PyError Participants := do
  let connected := acc.connected.filter fun p => p.userUuid = userUuid
  let infos := participantsInfo.filter fun p => p.userUuid = some userUuid
  if connected = [] then
    -- users with no matching channel
    match ← fetchParticipantFromUserUuid confd acc.cache userUuid with
    | (none, cache) => return { acc with cache := cache }
    | (some p, cache) =>
        match infos.getLast? with
        | none => throw .indexError
        | some info =>
            match info.role with
            | none => throw (.keyError "role")
            | some role =>
                return { acc with
                  unreached := acc.unreached ++
                    [{ userUuid := p.uuid, lineId := p.lineId, tags := p.tags, role := role,
                       answered := some false, requested := some (info.requested.getD false) }]
                  cache := cache }
  else if connected.length = infos.length then
    return { acc with connected := mergeMentions userUuid infos acc.connected }
  else return acc

/-- `_fetch_participants`. -/
def fetchParticipants (x : Externals) (confd : Confd) (call : RawCallLog) :
    Except PyError RawCallLog := do
  let channels ← computeParticipantsFromChannels x confd call
  let usersFromCel := call.participantsInfo.filterMap (·.userUuid)
  let usersFromChannels := channels.participants.map (·.userUuid)
  let userUuids := x.setOrder.visit (usersFromCel ++ usersFromChannels)
  let result ← userUuids.foldlM (participantsOfUser confd call.participantsInfo)
    { connected := channels.participants, cache := channels.cache }
  return { call with
    rawParticipants := channels.rawParticipants
    participants := result.connected ++ result.unreached }

end ParticipantsProcessor

end CallLogd
