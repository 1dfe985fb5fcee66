import SubnetRouter.Text.Trailing
import SubnetRouter.Url.Host
import SubnetRouter.Url.Path

/-!
# Reading URLs

After its scheme, a URL has an authority, a path, a query and a fragment.  The special schemes
always have an authority; other schemes have one after two slashes only, and without any slash
their path is kept as it is.
-/

namespace SubnetRouter.Url

/-- The text up to the query or fragment, and the text from there on. -/
def spanPath (text : List Char) : List Char × List Char :=
  text.span fun c => c ≠ '?' && c ≠ '#'

/-! ## Query and fragment -/

/-- The query and the fragment at the end of a URL. -/
def readTail (kind : SchemeKind) (text : List Char) : Option (List Char) × Option (List Char) :=
  let coded := if kind = .plain then codedInQuery else codedInSpecialQuery
  let fragment (text : List Char) : Option (List Char) :=
    match text with
    | '#' :: rest => some (encode codedInFragment rest)
    | _ => none
  match text with
  | '?' :: rest =>
    let (query, rest) := rest.span (· ≠ '#')
    (some (encode coded query), fragment rest)
  | text => (none, fragment text)

/-! ## Authority -/

/-- The text up to the end of the authority, and the text from there on. -/
def spanAuthority (kind : SchemeKind) (text : List Char) : List Char × List Char :=
  text.span fun c => !(kind.isSlash c || c = '?' || c = '#')

/-- The text before the last at sign, and the text after it. -/
def splitUser? (text : List Char) : Option (List Char × List Char) :=
  let host := (text.reverse.takeWhile (· ≠ '@')).reverse
  if host.length < text.length then some (text.take (text.length - host.length - 1), host) else none

def readUser (text : List Char) : List Char × List Char :=
  let (name, password) := text.span (· ≠ ':')
  (encode codedInUser name, encode codedInUser password.tail)

/-- The text up to the colon before the port, and the text from there on.  Colons between
brackets belong to the host. -/
def spanHost (inBrackets : Bool) : List Char → List Char × List Char
  | [] => ([], [])
  | c :: rest =>
    if c = ':' && !inBrackets then ([], c :: rest)
    else
      let (host, port) :=
        spanHost (if c = '[' then true else if c = ']' then false else inBrackets) rest
      (c :: host, port)

/-- Reads a port in decimal digits; no digits and the default port both mean none. -/
def readPort (scheme digits : List Char) : Except Fault (Option Nat) :=
  let value := digits.foldl (fun value c => value * 10 + (c.toNat - 48)) 0
  if !digits.all Char.isDigit || 65535 < value then .error .badPort
  else if digits.isEmpty || defaultPort? scheme = some value then .ok none
  else .ok (some value)

def readHost (idna : Idna) (kind : SchemeKind) (text : List Char) : Except Fault Host :=
  if kind = .plain then readPlainHost text
  else if text.isEmpty then .error .emptyHost
  else readSpecialHost idna text

/-- Reads the part between the two slashes and the path.  An at sign alone must stand at the end
of the URL.  A backslash ends the port and begins the path, whose text so far is returned. -/
def readAuthority (idna : Idna) (kind : SchemeKind) (scheme text : List Char) (atEnd : Bool) :
    Except Fault (Authority × List Char) := do
  let (user, text, hasMark) := match splitUser? text with
    | some (user, text) => (user, text, true)
    | none => ([], text, false)
  let (username, password) := readUser user
  if hasMark && user.isEmpty && text.isEmpty && !atEnd then throw .emptyHost
  let (hostText, portText) := spanHost false text
  let host ← readHost idna kind hostText
  if host = .domain [] && !portText.isEmpty then throw .emptyHost
  let (digits, pathText) := portText.tail.span (· ≠ '\\')
  let port ← readPort scheme digits
  if host = .domain [] && !(username.isEmpty && password.isEmpty) then throw .emptyHost
  return (⟨username, password, host, port⟩, pathText)

/-! ## Whole URLs -/

/-- Puts the parts together with the query and fragment of the text that is left. -/
def assemble (kind : SchemeKind) (scheme : List Char) (authority : Option Authority)
    (path : Path) (rest : List Char) : Url :=
  let (query, fragment) := readTail kind rest
  ⟨scheme, authority, path, query, fragment⟩

/-- Reads a URL after the two slashes before its authority. -/
def readAfterSlashes (idna : Idna) (kind : SchemeKind) (scheme text : List Char) :
    Except Fault Url := do
  let (authorityText, rest) := spanAuthority kind text
  let (authority, begun) ← readAuthority idna kind scheme authorityText rest.isEmpty
  let (pathText, rest) := spanPath (begun ++ rest)
  return assemble kind scheme (some authority) (readPath kind pathText) rest

def readPlain (idna : Idna) (scheme text : List Char) : Except Fault Url :=
  let kind := SchemeKind.plain
  match text with
  | '/' :: '/' :: rest => readAfterSlashes idna kind scheme rest
  | '/' :: rest =>
    let (pathText, rest) := spanPath rest
    .ok (assemble kind scheme none (readSegments kind pathText) rest)
  | text =>
    let (pathText, rest) := spanPath text
    .ok (assemble kind scheme none (.raw (encode isControl pathText)) rest)

/-! ## Files -/

/-- The host of a file that is on the machine itself. -/
def localFiles : Authority := ⟨[], [], .domain [], none⟩

/-- Reads the host of a file URL.  The machine itself has no name. -/
def readFileHost (idna : Idna) (text : List Char) : Except Fault Authority :=
  if text.isEmpty then .ok localFiles
  else
    match readSpecialHost idna text with
    | .error fault => .error fault
    | .ok host =>
      .ok (if host = .domain "localhost".toList then localFiles else ⟨[], [], host, none⟩)

/-- The text after a slash at its front, with breaks before it. -/
def afterSlash? (text : List Char) : Option (List Char) :=
  match text.dropWhile isBreak with
  | c :: rest => if SchemeKind.file.isSlash c then some rest else none
  | [] => none

/-- The file on a host whose path and what follows it are given.  A file on a drive has no
host. -/
def fileAt (scheme : List Char) (authority : Authority) (text : List Char) : Url :=
  let (pathText, rest) := spanPath text
  let trail := walk .file pathText
  let authority := if trail.onDrive then localFiles else authority
  assemble .file scheme (some authority) (trail.path .file) (withoutBreaks rest)

/-- Reads a file URL after its colon, with the breaks in it.  What looks like a host may be a
drive.  On the machine itself, the slash after the host counts as an empty level. -/
def readFile (idna : Idna) (scheme text : List Char) : Except Fault Url :=
  match (afterSlash? text).bind afterSlash? with
  | none => .ok (fileAt scheme localFiles ((afterSlash? text).getD text))
  | some text => do
    let (hostText, rest) := spanAuthority .file text
    let hostText := withoutBreaks hostText
    if isDrive hostText then return fileAt scheme localFiles text
    let authority ← readFileHost idna hostText
    return fileAt scheme authority (if authority = localFiles then rest else dropSlash .file rest)

/-! ## Whole texts -/

def trimmed (text : List Char) : List Char :=
  let isEdge (c : Char) : Bool := c.toNat ≤ 0x20
  Text.dropEnd isEdge (text.dropWhile isEdge)

def read (idna : Idna) (text : String) : Except Fault Url :=
  let text := trimmed text.toList
  match readScheme? (withoutBreaks text) with
  | none => .error .relative
  | some (scheme, rest) =>
    match kindOf scheme with
    | .file => readFile idna scheme (text.dropWhile (· ≠ ':')).tail
    | .special =>
      readAfterSlashes idna .special scheme (rest.dropWhile SchemeKind.special.isSlash)
    | .plain => readPlain idna scheme rest

end SubnetRouter.Url
