import SubnetRouter.Document.Shape
import SubnetRouter.SubnetConfig

/-!
# Reading configurations from documents

A record is given as a record, whose members are read in the order in which the document keeps
them before missing ones are looked for, or as a list of the fields in order.  Members with
other names are passed over.
-/

namespace SubnetRouter.Document

variable {α : Type} [Document α]

def readText (expected : Expected) (value : α) : Except DocumentFault String :=
  match shape value with
  | .string text => .ok text
  | other => .error (.wrongKind other.found expected)

def readId (value : α) : Except DocumentFault SubnetId := do
  let text ← readText .text value
  (SubnetId.read text).mapError .badId

def readAddress (value : α) : Except DocumentFault ContractAddress := do
  let text ← readText .text value
  match ContractAddress.read? text with
  | some address => .ok address
  | none => .error (.badAddress text)

def readUrl (idna : Url.Idna) (value : α) : Except DocumentFault Url := do
  let text ← readText .url value
  (Url.read idna text).mapError fun fault => .badUrl fault text

def readChainKind (value : α) : Except DocumentFault ChainKind := do
  let (name, beside) ← choice value
  if name = ChainKind.fevm.name then
    beside
    return .fevm
  else throw (.unknownChain name)

def readOptional {β : Type} (read : α → Except DocumentFault β) (value : α) :
    Except DocumentFault (Option β) :=
  match shape value with
  | .null => .ok none
  | _ => (read value).map some

def readFirst {β : Type} (read : α → Except DocumentFault β) (absent : Except DocumentFault β) :
    List α → Except DocumentFault (β × List α)
  | [] => absent.map (·, [])
  | item :: rest => (read item).map (·, rest)

/-- Passes over a value. -/
def ignore {β : Type} (value : α) (result : β) : Except DocumentFault β :=
  if canIgnore value then .ok result else .error .unreadable

/-- Refuses items after the last field, if the format does. -/
def finishItems {β : Type} (items rest : List α) (result : β) : Except DocumentFault β :=
  if refusesExtraItems α && !rest.isEmpty then .error (.tooManyItems items.length) else .ok result

/-! ## Endpoints -/

/-- The members of an endpoint that have been read. -/
structure EndpointMembers where
  url : Option Url
  authToken : Option String
  registry : Option ContractAddress
  gateway : Option ContractAddress

def EndpointMembers.read (idna : Url.Idna) (m : EndpointMembers) (member : String × α) :
    Except DocumentFault EndpointMembers :=
  match member with
  | ("provider_http", value) => (readUrl idna value).map fun url => { m with url := some url }
  | ("auth_token", value) =>
    (readOptional (readText .text) value).map fun token => { m with authToken := token }
  | ("registry_addr", value) =>
    (readOptional readAddress value).map fun address => { m with registry := address }
  | ("gateway_addr", value) =>
    (readOptional readAddress value).map fun address => { m with gateway := address }
  | (_, value) => ignore value m

def readEndpoint (idna : Url.Idna) (value : α) : Except DocumentFault Endpoint :=
  match shape value with
  | .record members => do
    let m ← members.foldlM (EndpointMembers.read idna) ⟨none, none, none, none⟩
    match m.url with
    | some url => return ⟨url, m.authToken, m.registry, m.gateway⟩
    | none => throw (.missingField "provider_http")
  | .sequence items => do
    let (url, rest) ← readFirst (readUrl idna) (.error (.tooFewItems 0 .endpoint 4)) items
    let (authToken, rest) ← readFirst (readOptional (readText .text)) (.ok none) rest
    let (registry, rest) ← readFirst (readOptional readAddress) (.ok none) rest
    let (gateway, rest) ← readFirst (readOptional readAddress) (.ok none) rest
    finishItems items rest ⟨url, authToken, registry, gateway⟩
  | other => throw (.wrongKind other.found .endpoint)

/-! ## Configurations -/

/-- The members of a configuration that have been read. -/
structure ConfigMembers where
  kind : Option ChainKind
  endpoint : Option Endpoint

def ConfigMembers.read (idna : Url.Idna) (m : ConfigMembers) (member : String × α) :
    Except DocumentFault ConfigMembers :=
  match member with
  | ("network_type", value) => (readChainKind value).map fun kind => { m with kind := some kind }
  | ("fevm", value) => (readEndpoint idna value).map fun e => { m with endpoint := some e }
  | (_, value) => ignore value m

def readConfig (idna : Url.Idna) (value : α) : Except DocumentFault SubnetConfig :=
  match shape value with
  | .record members => do
    let m ← members.foldlM (ConfigMembers.read idna) ⟨none, none⟩
    match m.kind, m.endpoint with
    | some kind, some endpoint => return ⟨kind, endpoint⟩
    | none, _ => throw (.missingField "network_type")
    | _, none => throw (.missingField "fevm")
  | .sequence items => do
    let (kind, rest) ← readFirst readChainKind (.error (.tooFewItems 0 .config 2)) items
    let (endpoint, rest) ← readFirst (readEndpoint idna) (.error (.tooFewItems 1 .config 2)) rest
    finishItems items rest ⟨kind, endpoint⟩
  | other => throw (.wrongKind other.found .config)

/-! ## Registry entries -/

/-- A subnet and its configuration, as a registry document lists it. -/
structure Entry where
  id : SubnetId
  config : SubnetConfig
deriving Repr, DecidableEq

/-- The members of an entry that have been read. -/
structure EntryMembers where
  id : Option SubnetId
  kind : Option ChainKind
  endpoint : Option Endpoint

def EntryMembers.read (idna : Url.Idna) (m : EntryMembers) (member : String × α) :
    Except DocumentFault EntryMembers :=
  match member with
  | ("id", value) => (readId value).map fun id => { m with id := some id }
  | ("network_type", value) => (readChainKind value).map fun kind => { m with kind := some kind }
  | ("fevm", value) => (readEndpoint idna value).map fun e => { m with endpoint := some e }
  | (_, value) => ignore value m

def readEntry (idna : Url.Idna) (value : α) : Except DocumentFault Entry :=
  match shape value with
  | .record members => do
    let m ← members.foldlM (EntryMembers.read idna) ⟨none, none, none⟩
    match m.id, m.kind, m.endpoint with
    | some id, some kind, some endpoint => return ⟨id, ⟨kind, endpoint⟩⟩
    | none, _, _ => throw (.missingField "id")
    | _, none, _ => throw (.missingField "network_type")
    | _, _, none => throw (.missingField "fevm")
  | .sequence items => do
    let (id, rest) ← readFirst readId (.error (.tooFewItems 0 .entry 3)) items
    let (kind, rest) ← readFirst readChainKind (.error (.tooFewItems 1 .entry 3)) rest
    let (endpoint, rest) ← readFirst (readEndpoint idna) (.error (.tooFewItems 2 .entry 3)) rest
    finishItems items rest ⟨id, ⟨kind, endpoint⟩⟩
  | other => throw (.wrongKind other.found .entry)

def readNamedEntries (idna : Url.Idna) :
    List (String × α) → Except DocumentFault (List (String × Entry))
  | [] => .ok []
  | (name, value) :: rest => do
    let entry ← readEntry idna value
    let entries ← readNamedEntries idna rest
    return (name, entry) :: entries

def readEntryTable (idna : Url.Idna) (value : α) : Except DocumentFault (List (String × Entry)) :=
  match shape value with
  | .record members => readNamedEntries idna members
  | other => .error (.wrongKind other.found .table)

/-- Reads the entries of a registry document: those of its table `subnets`, if it has one. -/
def readEntries (idna : Url.Idna) (members : List (String × α)) :
    Except DocumentFault (List (String × Entry)) :=
  members.foldlM
    (fun entries member =>
      match member with
      | ("subnets", value) => readEntryTable idna value
      | (_, value) => ignore value entries)
    []

end SubnetRouter.Document
