import SubnetRouter.Url.Domain
import SubnetRouter.Url.PercentCoding

/-!
# Reading hosts

A host in brackets is an IPv6 address.  Other hosts of special schemes are domain names in their
ASCII form, or IPv4 addresses if the last label of that form is a number; hosts of other schemes
are kept with only control characters coded.
-/

namespace SubnetRouter.Url

open Text

/-! ## IPv4 addresses -/

def digitBelow? (base : Nat) (c : Char) : Option Nat :=
  if c.toNat < 128 then
    (Hex.digitValue? c.toUInt8).bind fun d => if d.toNat < base then some d.toNat else none
  else none

def readDigits? (base : Nat) (digits : List Char) : Option Nat :=
  (digits.mapM (digitBelow? base)).map (·.foldl (fun value d => value * base + d) 0)

/-- The number of a label: hexadecimal after `0x`, octal after `0`, else decimal. -/
def readLabel? : List Char → Option Nat
  | [] => none
  | '0' :: 'x' :: digits => readDigits? 16 digits
  | '0' :: 'X' :: digits => readDigits? 16 digits
  | '0' :: d :: digits => readDigits? 8 (d :: digits)
  | digits => readDigits? 10 digits

def dropFinalEmpty (labels : List (List Char)) : List (List Char) :=
  if labels.getLast? = some [] then labels.dropLast else labels

/-- The last label of the name, before a final dot if there is one, is a number. -/
def endsInNumber (name : List Char) : Bool :=
  match (dropFinalEmpty (labels name)).getLast? with
  | none => false
  | some label => (!label.isEmpty && label.all Char.isDigit) || (readLabel? label).isSome

/-- Reads an IPv4 address.  All labels but the last one are single bytes; the last one fills the
bytes that are left. -/
def readIpv4 (name : List Char) : Except Fault Host :=
  let parts := dropFinalEmpty (labels name)
  match parts.mapM readLabel? with
  | none => .error .badIpv4
  | some numbers =>
    match numbers.getLast? with
    | none => .error .badIpv4
    | some last =>
      let bytes := numbers.dropLast
      if 4 < parts.length || bytes.any (255 < ·) || Nat.pow 256 (4 - bytes.length) ≤ last then
        .error .badIpv4
      else
        .ok (.ipv4 (bytes.foldl (fun value byte => value * 256 + byte) 0
          * Nat.pow 256 (4 - bytes.length) + last))

/-! ## IPv6 addresses -/

/-- Groups read so far, and the number of groups before the double colon if there was one. -/
structure Groups where
  groups : List Nat
  gap : Option Nat

namespace Groups

/-- The number of places taken; a double colon takes one. -/
def places (g : Groups) : Nat :=
  g.groups.length + if g.gap.isSome then 1 else 0

def push (g : Groups) (group : Nat) : Groups :=
  { g with groups := g.groups ++ [group] }

/-- The eight groups of the address: a double colon stands for the zeros that are missing. -/
def finish? (g : Groups) : Option (List Nat) :=
  match g.gap with
  | none => if g.groups.length = 8 then some g.groups else none
  | some gap =>
    some (g.groups.take gap ++ List.replicate (8 - g.groups.length) 0 ++ g.groups.drop gap)

end Groups

def readByte? (text : List Char) : Option (Nat × List Char) :=
  let digits := text.takeWhile Char.isDigit
  let value := digits.foldl (fun value c => value * 10 + (c.toNat - 48)) 0
  if digits.isEmpty || (digits.head? = some '0' && 1 < digits.length) || 255 < value then none
  else some (value, text.dropWhile Char.isDigit)

def readDotByte? : List Char → Option (Nat × List Char)
  | '.' :: rest => readByte? rest
  | _ => none

/-- Reads an IPv4 address at the end of an IPv6 address as two groups. -/
def readIpv4Groups? (text : List Char) : Option (Nat × Nat) := do
  let (a, text) ← readByte? text
  let (b, text) ← readDotByte? text
  let (c, text) ← readDotByte? text
  let (d, text) ← readDotByte? text
  if text.isEmpty then return (a * 256 + b, c * 256 + d) else none

/-- Reads groups up to the end of the text; `fuel` bounds their number. -/
def readGroups? : Nat → Groups → List Char → Option Groups
  | _, g, [] => some g
  | 0, _, _ => none
  | fuel + 1, g, text =>
    if g.places = 8 then none
    else
      match text with
      | ':' :: rest =>
        if g.gap.isSome then none
        else readGroups? fuel { g with gap := some g.groups.length } rest
      | _ =>
        let digits := (text.take 4).takeWhile fun c => (digitBelow? 16 c).isSome
        let value := (readDigits? 16 digits).getD 0
        match text.drop digits.length with
        | [] => some (g.push value)
        | '.' :: _ =>
          if digits.isEmpty || 6 < g.places then none
          else (readIpv4Groups? text).map fun (high, low) => (g.push high).push low
        | [':'] => none
        | ':' :: rest => readGroups? fuel (g.push value) rest
        | _ => none

def readIpv6? (text : List Char) : Option (List Nat) :=
  if text.length < 2 then none
  else
    match text with
    | ':' :: ':' :: rest => (readGroups? text.length ⟨[], some 0⟩ rest).bind Groups.finish?
    | ':' :: _ => none
    | _ => (readGroups? text.length ⟨[], none⟩ text).bind Groups.finish?

def readBracketed (text : List Char) : Except Fault Host :=
  if text.getLast? = some ']' && 1 < text.length then
    match readIpv6? text.tail.dropLast with
    | some groups => .ok (.ipv6 groups)
    | none => .error .badIpv6
  else .error .badIpv6

/-! ## Names -/

def readSpecialHost (idna : Idna) (text : List Char) : Except Fault Host :=
  if text.head? = some '[' then readBracketed text
  else do
    let name ← domainName idna (decode text)
    if name.isEmpty then throw .emptyHost
    else if endsInNumber name then readIpv4 name
    else return .domain name

def forbiddenInHost (c : Char) : Bool :=
  ['\x00', '\t', '\n', '\r', ' ', '#', '/', ':', '<', '>', '?', '@', '[', '\\', ']', '^',
    '|'].contains c

def readPlainHost (text : List Char) : Except Fault Host :=
  if text.head? = some '[' then readBracketed text
  else if text.any forbiddenInHost then .error .badHostCharacter
  else .ok (.domain (encode isControl text))

end SubnetRouter.Url
