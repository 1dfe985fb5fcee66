/-!
# Hexadecimal text

Reading and writing byte strings as pairs of hex digits.  Reading works on the bytes of the
text, so a fault names a byte and its index; writing uses lowercase digits.
-/

namespace SubnetRouter.Text

def utf8Bytes (text : List Char) : List UInt8 :=
  text.flatMap String.utf8EncodeChar

namespace Hex

/-- Why a byte string is not hexadecimal. -/
inductive Fault where
  | oddLength
  | badByte (byte : UInt8) (index : Nat)
deriving Repr, DecidableEq

def digitValue? (byte : UInt8) : Option UInt8 :=
  if 48 ≤ byte ∧ byte ≤ 57 then some (byte - 48)
  else if 65 ≤ byte ∧ byte ≤ 70 then some (byte - 55)
  else if 97 ≤ byte ∧ byte ≤ 102 then some (byte - 87)
  else none

def digit (value : UInt8) : Char :=
  if value < 10 then Char.ofNat (48 + value.toNat) else Char.ofNat (87 + value.toNat)

/-- The value of the digit at `index`, or the fault that it is none. -/
def readDigit (index : Nat) (byte : UInt8) : Except Fault UInt8 :=
  match digitValue? byte with
  | some value => .ok value
  | none => .error (.badByte byte index)

/-- Reads digit pairs from left to right; `index` is the position of the first byte. -/
def decodePairs (index : Nat) : List UInt8 → Except Fault (List UInt8)
  | high :: low :: rest => do
    let h ← readDigit index high
    let l ← readDigit (index + 1) low
    let bytes ← decodePairs (index + 2) rest
    return (h * 16 + l) :: bytes
  | [_] => .error .oddLength
  | [] => .ok []

/-- Reads the digits as bytes.  An odd number of them is refused before any digit is read. -/
def decode (digits : List UInt8) : Except Fault (List UInt8) :=
  if digits.length % 2 = 1 then .error .oddLength else decodePairs 0 digits

def decodeText (text : List Char) : Except Fault (List UInt8) :=
  decode (utf8Bytes text)

/-- Writes the bytes of digit pairs over the places from left to right, and tells whether all of them
are pairs of digits.  From the first one that is not, the places keep what they hold. -/
def fill : List UInt8 → List UInt8 → List UInt8 × Bool
  | place :: places, high :: low :: rest =>
    match digitValue? high, digitValue? low with
    | some h, some l =>
      let (filled, complete) := fill places rest
      ((h * 16 + l) :: filled, complete)
    | _, _ => (place :: places, false)
  | places, _ => (places, true)

/-- Fills the places with the bytes of a text.  Nothing is written unless it has two digits for each of
them. -/
def decodeInto (places : List UInt8) (text : List Char) : List UInt8 × Bool :=
  let digits := utf8Bytes text
  if digits.length = 2 * places.length then fill places digits else (places, false)

def encodeByte (byte : UInt8) : List Char :=
  [digit (byte / 16), digit (byte % 16)]

def encode (bytes : List UInt8) : List Char :=
  bytes.flatMap encodeByte

def dropMark : List Char → List Char
  | '0' :: 'x' :: digits => digits
  | digits => digits

theorem length_encode (bytes : List UInt8) : (encode bytes).length = 2 * bytes.length := by
  induction bytes with
  | nil => rfl
  | cons byte rest ih =>
    simp only [encode, List.flatMap_cons, List.length_append, List.length_cons] at ih ⊢
    simp only [encodeByte, List.length_cons, List.length_nil, ih]
    omega

end Hex

end SubnetRouter.Text
