import SubnetRouter.Document.Decode
import SubnetRouter.Network
import SubnetRouter.Text.Blank
import SubnetRouter.Toml.Reader
import Std.Data.ExtTreeMap

/-!
# Subnet registries

A registry maps the canonical texts of subnet ids to configurations.  It is built from a
network, from a TOML document, or entry by entry, and lists its keys in ascending order.
-/

namespace SubnetRouter

/-- Configurations by the canonical texts of their subnets. -/
structure Registry where
  configs : Std.ExtTreeMap String SubnetConfig compare

namespace Registry

def empty : Registry :=
  ⟨∅⟩

instance : Inhabited Registry := ⟨empty⟩

def get? (r : Registry) (key : String) : Option SubnetConfig :=
  r.configs[key]?

def getSubnet? (r : Registry) (id : SubnetId) : Option SubnetConfig :=
  r.get? id.text

/-- Stores the configuration of a subnet, over one that was there. -/
def insert (r : Registry) (id : SubnetId) (config : SubnetConfig) : Registry :=
  ⟨r.configs.insert id.text config⟩

def size (r : Registry) : Nat :=
  r.configs.size

def isEmpty (r : Registry) : Bool :=
  r.configs.isEmpty

/-- The keys in ascending order. -/
def keys (r : Registry) : List String :=
  Text.sorted r.configs.keys

/-- The entries in ascending order of their keys. -/
def toList (r : Registry) : List (String × SubnetConfig) :=
  r.keys.filterMap fun key => (r.get? key).map (key, ·)

/-! ## Sources -/

def ofNetwork (idna : Url.Idna) (name : String) : Except ConfigFault Registry :=
  (Network.find idna name).map fun network => empty.insert network.id network.config

/-- Adds entries one after the other; no subnet may be there already. -/
def insertAll (r : Registry) : List (String × Document.Entry) → Except ConfigFault Registry
  | [] => .ok r
  | (_, entry) :: entries =>
    match r.getSubnet? entry.id with
    | some _ => .error (.duplicateSubnet entry.id.text)
    | none => (r.insert entry.id entry.config).insertAll entries

/-- The entries of a TOML document.  A document with a number that has no value, or with an integer
beyond 64 bits, is at fault for it when it is at fault at all. -/
def readToml (idna : Url.Idna) (text : String) :
    Except ConfigFault (List (String × Document.Entry)) :=
  match Toml.read? text with
  | none => .error .notToml
  | some members =>
    match Document.readEntries idna members with
    | .ok entries => .ok entries
    | .error fault =>
      if Toml.entriesWithin (-0x8000000000000000) 0x7FFFFFFFFFFFFFFF members then .error (.document fault)
      else .error .notToml

def ofToml (idna : Url.Idna) (text : String) : Except ConfigFault Registry := do
  let entries ← readToml idna text
  empty.insertAll entries

def ofFile (idna : Url.Idna) (files : Files) (path : String) : Except ConfigFault Registry :=
  match files.readText path with
  | .error fault => .error (.file fault)
  | .ok text => ofToml idna text

/-- Where a registry comes from. -/
inductive Source where
  | file (path : String)
  | network (name : String)
deriving Repr, DecidableEq

def Source.paths : Source → List String
  | .file path => [path]
  | .network _ => []

def ofSource (idna : Url.Idna) (files : Files) : Source → Except ConfigFault Registry
  | .file path => ofFile idna files path
  | .network name => ofNetwork idna name

end Registry

/-- What there is for a variable of the environment. -/
inductive Variable where
  | unset
  | notUnicode (bytes : List UInt8)
  | text (value : String)
deriving Repr, DecidableEq

/-- The text of the variable.  A value that is not Unicode counts as none. -/
def Variable.text? : Variable → Option String
  | .unset => none
  | .notUnicode _ => none
  | .text value => some value

/-- The variables of the environment that choose a registry. -/
structure Environment where
  config : Variable
  network : Variable
deriving Repr, DecidableEq

/-- The source that the environment chooses: a file before a network, and the default network
where neither has a text.  White space around the name of a network is left out. -/
def Environment.source (env : Environment) : Registry.Source :=
  match env.config.text?, env.network.text? with
  | some path, _ => .file path
  | none, some name => .network (Text.trimBlank name)
  | none, none => .network Network.defaultName

def Registry.ofEnvironment (idna : Url.Idna) (files : Files) (env : Environment) :
    Except ConfigFault Registry :=
  ofSource idna files env.source

end SubnetRouter
