import SubnetRouter.CommandLine.Invocation

/-!
# Reading command lines

A command line is a list of words.  Options may stand before the command or among its
arguments; those that choose a registry are admitted in both places, and a value given after the
command wins over one given before.  A value is checked when the word after it is read, not
before, so a fault in the form of that word can come first.
-/

namespace SubnetRouter.CommandLine

/-! ## Options and places -/

/-- An option with a value. -/
inductive OptionName where
  | network
  | config
  | contract
  | method
  | abiDirectory
  | address
deriving Repr, DecidableEq

/-- The name of a command. -/
inductive CommandName where
  | networks
  | resolve
  | call
deriving Repr, DecidableEq

def CommandName.ofWord? (word : String) : Option CommandName :=
  match word with
  | "networks" => some .networks
  | "resolve" => some .resolve
  | "call" => some .call
  | _ => none

def namesCommand (word : String) : Bool :=
  word == "help" || (CommandName.ofWord? word).isSome

/-- The option of a name, before a command or among the arguments of one. -/
def OptionName.ofName? (command : Option CommandName) (name : String) : Option OptionName :=
  match name, command with
  | "network", _ => some .network
  | "config", _ => some .config
  | "contract", some .call => some .contract
  | "method", some .call => some .method
  | "abi-dir", some .call => some .abiDirectory
  | "address", some .call => some .address
  | _, _ => none

/-- Where a value goes. -/
inductive Slot where
  | option (name : OptionName)
  | subnet
  | args
deriving Repr, DecidableEq

/-- Where the next argument without an option goes, after `count` others. -/
def Slot.ofPosition? (command : Option CommandName) (count : Nat) : Option Slot :=
  match command, count with
  | some .resolve, 0 => some .subnet
  | some .call, 0 => some .subnet
  | some .call, _ + 1 => some .args
  | _, _ => none

/-! ## Values -/

/-- The values that have been given at one place. -/
structure Values where
  network : Option String
  config : Option String
  contract : Option String
  method : Option String
  abiDirectory : Option String
  address : Option ContractAddress
  subnet : Option SubnetId
  args : List String
deriving Repr, DecidableEq

namespace Values

def empty : Values :=
  ⟨none, none, none, none, none, none, none, []⟩

/-- Refuses a second value. -/
def once {α : Type} (old : Option α) (read : Except UsageFault α) :
    Except UsageFault (Option α) :=
  match old with
  | some _ => .error .conflict
  | none => read.map some

def readPath (value : String) : Except UsageFault String :=
  if value.isEmpty then .error .missingValue else .ok value

def readAddress (value : String) : Except UsageFault ContractAddress :=
  match ContractAddress.read? value with
  | some address => .ok address
  | none => .error .badValue

def readSubnet (value : String) : Except UsageFault SubnetId :=
  (SubnetId.read value).mapError fun _ => .badValue

/-- Puts a value into its place. -/
def put (v : Values) (slot : Slot) (value : String) : Except UsageFault Values :=
  match slot with
  | .option .network => (once v.network (.ok value)).map ({ v with network := · })
  | .option .config => (once v.config (readPath value)).map ({ v with config := · })
  | .option .contract => (once v.contract (.ok value)).map ({ v with contract := · })
  | .option .method => (once v.method (.ok value)).map ({ v with method := · })
  | .option .abiDirectory =>
    (once v.abiDirectory (readPath value)).map ({ v with abiDirectory := · })
  | .option .address => (once v.address (readAddress value)).map ({ v with address := · })
  | .subnet => (once v.subnet (readSubnet value)).map ({ v with subnet := · })
  | .args => .ok { v with args := v.args ++ [value] }

/-- Both options that choose a registry have been given. -/
def choosesTwice (v : Values) : Bool :=
  v.network.isSome && v.config.isSome

end Values

/-! ## Words -/

/-- The form of a word. -/
inductive Word where
  /-- The two dashes after which all words are arguments. -/
  | dashes
  /-- Two dashes, a name, and perhaps a value after an equals sign. -/
  | long (name : String) (value : Option String)
  /-- A dash and letters; only the first one counts. -/
  | short (letter : Char)
  | plain
deriving Repr, DecidableEq

def Word.ofText (text : String) : Word :=
  match text.toList with
  | ['-', '-'] => .dashes
  | '-' :: '-' :: rest =>
    let name := rest.takeWhile (· ≠ '=')
    match rest.drop name.length with
    | [] => .long (String.ofList name) none
    | _ :: value => .long (String.ofList name) (some (String.ofList value))
  | '-' :: letter :: _ => .short letter
  | _ => .plain

/-- How far the reading of one place has come. -/
structure Progress where
  values : Values
  /-- The place of the last value, and the value if it has been read. -/
  pending : Option (Slot × Option String)
  /-- The two dashes have been read. -/
  onlyArguments : Bool
  count : Nat
deriving Repr, DecidableEq

namespace Progress

def start : Progress :=
  ⟨.empty, none, false, 0⟩

/-- Puts the last value into its place. -/
def settle (p : Progress) : Except UsageFault Progress :=
  match p.pending with
  | none => .ok p
  | some (_, none) => .error .missingValue
  | some (slot, some value) =>
    (p.values.put slot value).map fun values => { p with values := values, pending := none }

/-- An option waits for its value. -/
def waits (p : Progress) : Bool :=
  !p.onlyArguments && p.pending.any (·.2.isNone)

def readLong (command : Option CommandName) (p : Progress) (name : String)
    (value : Option String) : Except UsageFault Progress :=
  if name = "help" then
    match value with
    | some _ => .error .unwantedValue
    | none => p.settle.bind fun _ => .error .help
  else
    match OptionName.ofName? command name with
    | none => .error .unknownArgument
    | some option => do
      let p ← p.settle
      match value with
      | some value =>
        let values ← p.values.put (.option option) value
        return { p with values := values }
      | none => return { p with pending := some (.option option, none) }

/-- Reads an argument without an option.  Before a command there is no place for one. -/
def readArgument (command : Option CommandName) (p : Progress) (text : String) :
    Except UsageFault Progress :=
  match Slot.ofPosition? command p.count with
  | some slot => do
    let p ← p.settle
    return { p with pending := some (slot, some text), count := p.count + 1 }
  | none =>
    if command.isSome || (p.onlyArguments && namesCommand text) then .error .unknownArgument
    else .error .unknownCommand

def read (command : Option CommandName) (p : Progress) (text : String) :
    Except UsageFault Progress :=
  if p.onlyArguments then p.readArgument command text
  else
    match Word.ofText text with
    | .dashes => .ok { p with onlyArguments := true }
    | .long name value => p.readLong command name value
    | .short letter =>
      if letter = 'h' then p.settle.bind fun _ => .error .help else .error .unknownArgument
    | .plain =>
      match p.pending with
      | some (slot, none) => .ok { p with pending := some (slot, some text) }
      | _ => p.readArgument command text

def readAll (command : Option CommandName) : Progress → List String → Except UsageFault Progress
  | p, [] => .ok p
  | p, text :: rest => (p.read command text).bind fun p => readAll command p rest

end Progress

/-! ## Commands -/

/-- A value that is required. -/
def require {α : Type} (value : Option α) : Except UsageFault α :=
  match value with
  | some value => .ok value
  | none => .error .missingArgument

def defaultAbiDirectory : String := "abis"

def commandOf (name : CommandName) (v : Values) : Except UsageFault Command :=
  match name with
  | .networks => .ok .networks
  | .resolve => (require v.subnet).map .resolve
  | .call => do
    let subnet ← require v.subnet
    let contract ← require v.contract
    let method ← require v.method
    return .call
      { subnet := subnet
        contract := contract
        method := method
        abiDirectory := v.abiDirectory.getD defaultAbiDirectory
        address := v.address
        args := v.args }

def readCommand (name : CommandName) (words : List String) :
    Except UsageFault (Values × Command) := do
  let p ← Progress.start.readAll (some name) words
  let p ← p.settle
  if p.values.choosesTwice then throw .conflict
  let command ← commandOf name p.values
  return (p.values, command)

/-- Help on a command, if the words after `help` name at most one. -/
def readHelp : List String → UsageFault
  | [] => .help
  | [word] => if namesCommand word then .help else .unknownCommand
  | _ => .unknownCommand

def finishWithout (p : Progress) : UsageFault :=
  match p.settle with
  | .error fault => fault
  | .ok p => if p.values.network.isNone && p.values.config.isNone then .nothing else .noCommand

/-- Joins what was given before a command with what was given after its name. -/
def join (p : Progress) (values : Values) (command : Command) : Except UsageFault Invocation := do
  let p ← p.settle
  if p.values.choosesTwice then throw .conflict
  return ⟨values.network <|> p.values.network, values.config <|> p.values.config, command⟩

/-- Reads words up to the name of a command, then the command. -/
def readFrom (p : Progress) : List String → Except UsageFault Invocation
  | [] => .error (finishWithout p)
  | word :: rest =>
    if !p.onlyArguments && !p.waits && word == "help" then .error (readHelp rest)
    else
      match if p.onlyArguments || p.waits then none else CommandName.ofWord? word with
      | some name => do
        let (values, command) ← readCommand name rest
        join p values command
      | none => (p.read none word).bind fun p => readFrom p rest

def read (words : List String) : Except UsageFault Invocation :=
  readFrom .start words

end SubnetRouter.CommandLine
