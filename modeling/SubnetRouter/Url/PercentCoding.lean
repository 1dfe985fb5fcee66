import SubnetRouter.Text.Hex

/-!
# Percent coding

Characters that a part of a URL does not admit are written as the bytes of their UTF-8 form,
each as a percent sign and two uppercase hex digits.  Each part has its own set.
-/

namespace SubnetRouter.Url

open Text

/-- Controls and everything beyond ASCII. -/
def isControl (c : Char) : Bool :=
  c.toNat < 0x20 || 0x7F ≤ c.toNat

def codedInFragment (c : Char) : Bool :=
  isControl c || [' ', '"', '<', '>', '\x60'].contains c

def codedInQuery (c : Char) : Bool :=
  isControl c || [' ', '"', '#', '<', '>'].contains c

def codedInSpecialQuery (c : Char) : Bool :=
  codedInQuery c || c = '\''

def codedInPath (c : Char) : Bool :=
  codedInFragment c || ['#', '?', '{', '}'].contains c

def codedInUser (c : Char) : Bool :=
  codedInPath c || ['/', ':', ';', '=', '@', '[', '\\', ']', '^', '|'].contains c

def codedByte (byte : UInt8) : List Char :=
  '%' :: (Hex.encodeByte byte).map Char.toUpper

def encode (coded : Char → Bool) (text : List Char) : List Char :=
  text.flatMap fun c => if coded c then (utf8Bytes [c]).flatMap codedByte else [c]

/-- Replaces each percent sign with two hex digits by the byte that they spell. -/
def decodeBytes : List UInt8 → List UInt8
  | 37 :: high :: low :: rest =>
    match Hex.digitValue? high, Hex.digitValue? low with
    | some h, some l => (h * 16 + l) :: decodeBytes rest
    | _, _ => 37 :: decodeBytes (high :: low :: rest)
  | byte :: rest => byte :: decodeBytes rest
  | [] => []

/-- The bytes of a text with percent codes. -/
def decode (text : List Char) : List UInt8 :=
  decodeBytes (utf8Bytes text)

end SubnetRouter.Url
