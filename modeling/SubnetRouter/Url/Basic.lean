/-!
# URLs

A URL in parts, each already in its written form, and the text that the parts make up.  A host
is a domain name, an IPv4 address or an IPv6 address; an empty domain name stands for a host
that is present but has no name.
-/

namespace SubnetRouter

namespace Url

/-- The machine that a URL names. -/
inductive Host where
  | domain (name : List Char)
  | ipv4 (address : Nat)
  | ipv6 (groups : List Nat)
deriving Repr, DecidableEq

/-- The part of a URL between the two slashes and the path. -/
structure Authority where
  username : List Char
  password : List Char
  host : Host
  port : Option Nat
deriving Repr, DecidableEq

/-- The path: segments, each after a slash, or a text without structure. -/
inductive Path where
  | segments (segments : List (List Char))
  | raw (text : List Char)
deriving Repr, DecidableEq

/-- Why a text is no URL. -/
inductive Fault where
  | relative
  | emptyHost
  | badPort
  | badIpv4
  | badIpv6
  | badDomain
  | badHostCharacter
deriving Repr, DecidableEq

def Fault.message : Fault → String
  | .relative => "relative URL without a base"
  | .emptyHost => "empty host"
  | .badPort => "invalid port number"
  | .badIpv4 => "invalid IPv4 address"
  | .badIpv6 => "invalid IPv6 address"
  | .badDomain => "invalid international domain name"
  | .badHostCharacter => "invalid domain character"

end Url

/-- A URL. -/
structure Url where
  scheme : List Char
  authority : Option Url.Authority
  path : Url.Path
  query : Option (List Char)
  fragment : Option (List Char)
deriving Repr, DecidableEq

namespace Url

/-- The four bytes of an IPv4 address in decimal, between dots. -/
def ipv4Chars (address : Nat) : List Char :=
  let byte (shift : Nat) := Nat.toDigits 10 (address / Nat.pow 2 shift % 256)
  byte 24 ++ '.' :: byte 16 ++ '.' :: byte 8 ++ '.' :: byte 0

def leadingZeros (groups : List Nat) : Nat :=
  (groups.takeWhile (· = 0)).length

/-- The start and length of the first longest run of zeros, if it has two or more. -/
def longestZeros (groups : List Nat) : Option (Nat × Nat) :=
  (List.range groups.length).foldl
    (fun best start =>
      let length := leadingZeros (groups.drop start)
      if best.any (length ≤ ·.2) || length < 2 then best else some (start, length))
    none

def groupChars (groups : List Nat) : List Char :=
  [':'].intercalate (groups.map (Nat.toDigits 16))

/-- The groups of an IPv6 address; the longest run of zero groups is left out. -/
def ipv6Chars (groups : List Nat) : List Char :=
  match longestZeros groups with
  | none => groupChars groups
  | some (start, length) =>
    groupChars (groups.take start) ++ ':' :: ':' :: groupChars (groups.drop (start + length))

def Host.chars : Host → List Char
  | .domain name => name
  | .ipv4 address => ipv4Chars address
  | .ipv6 groups => '[' :: ipv6Chars groups ++ [']']

def Authority.userChars (a : Authority) : List Char :=
  let password := if a.password.isEmpty then [] else ':' :: a.password
  let user := a.username ++ password
  if user.isEmpty then [] else user ++ ['@']

def Authority.chars (a : Authority) : List Char :=
  '/' :: '/' :: a.userChars ++ a.host.chars
    ++ (a.port.map fun port => ':' :: Nat.toDigits 10 port).getD []

def Path.chars : Path → List Char
  | .segments parts => parts.flatMap ('/' :: ·)
  | .raw text => text

def Path.looksLikeAuthority (path : Path) : Bool :=
  ['/', '/'].isPrefixOf path.chars

/-- The text of a URL.  Where there is no authority, a path that would read as one is kept
apart by a dot. -/
def chars (u : Url) : List Char :=
  let guard := if u.authority.isNone && u.path.looksLikeAuthority then ['/', '.'] else []
  u.scheme ++ ':' :: (u.authority.map Authority.chars).getD [] ++ guard ++ u.path.chars
    ++ (u.query.map ('?' :: ·)).getD [] ++ (u.fragment.map ('#' :: ·)).getD []

def text (u : Url) : String :=
  String.ofList u.chars

end Url

end SubnetRouter
