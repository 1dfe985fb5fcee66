/-!
# Schemes

The special schemes always have an authority and a path of segments; backslashes count as
slashes there.  Files are special in their own way: their host may be left out, and their path
may begin with a drive.
-/

namespace SubnetRouter.Url

/-- How a scheme shapes the rest of the URL. -/
inductive SchemeKind where
  | file
  | special
  | plain
deriving Repr, DecidableEq

def kindOf (scheme : List Char) : SchemeKind :=
  match String.ofList scheme with
  | "file" => .file
  | "http" | "https" | "ws" | "wss" | "ftp" => .special
  | _ => .plain

def defaultPort? (scheme : List Char) : Option Nat :=
  match String.ofList scheme with
  | "http" | "ws" => some 80
  | "https" | "wss" => some 443
  | "ftp" => some 21
  | _ => none

def SchemeKind.isSlash (kind : SchemeKind) (c : Char) : Bool :=
  c = '/' || (kind != .plain && c = '\\')

/-- The scheme in lowercase, and the text after its colon. -/
def readScheme? (text : List Char) : Option (List Char × List Char) :=
  let scheme := text.takeWhile fun c => c.isAlphanum || c = '+' || c = '-' || c = '.'
  match text.drop scheme.length with
  | ':' :: rest =>
    if scheme.head?.any Char.isAlpha then some (scheme.map Char.toLower, rest) else none
  | _ => none

end SubnetRouter.Url
