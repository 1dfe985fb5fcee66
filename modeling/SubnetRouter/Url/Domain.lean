import SubnetRouter.Text.Split
import SubnetRouter.Url.Basic

/-!
# Domain names

A domain name in ASCII is lowercased and checked.  A name with other characters, or with a label
that is the coded form of such a name, is *international*: its ASCII form is a matter of the tables
of Unicode, which are no part of URLs, so it is taken from outside.
-/

namespace SubnetRouter.Url

open Text

def forbiddenInDomain (c : Char) : Bool :=
  c.toNat ≤ 32 || 127 ≤ c.toNat
    || ['#', '%', '/', ':', '<', '>', '?', '@', '[', '\\', ']', '^', '|'].contains c

/-- The ASCII forms of international domain names. -/
structure Idna where
  /-- The form of the name with the given bytes, which may be no text at all. -/
  toAscii? : List UInt8 → Option (List Char)
  /-- No form has a character that domain names may not have. -/
  allowed : ∀ bytes name, toAscii? bytes = some name → name.any forbiddenInDomain = false

/-- No international name has a form. -/
def Idna.asciiOnly : Idna where
  toAscii? _ := none
  allowed _ _ h := nomatch h

def labels (name : List Char) : List (List Char) :=
  pieces (· = '.') name

/-- The label is the coded form of an international one. -/
def isCodedLabel : List Char → Bool
  | 'x' :: 'n' :: '-' :: '-' :: _ => true
  | _ => false

/-- The ASCII form of the domain name with the given bytes. -/
def domainName (idna : Idna) (bytes : List UInt8) : Except Fault (List Char) :=
  let name := bytes.map fun byte => (Char.ofNat byte.toNat).toLower
  if bytes.any (128 ≤ ·) || (labels name).any isCodedLabel then
    match idna.toAscii? bytes with
    | some name => .ok name
    | none => .error .badDomain
  else if name.any forbiddenInDomain then .error .badDomain
  else .ok name

end SubnetRouter.Url
