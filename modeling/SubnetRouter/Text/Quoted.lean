import SubnetRouter.Text.Hex
import SubnetRouter.Text.Printable

/-!
# Quoted text

Texts and characters as messages show them: between quotes, with a backslash before the quote
and the backslash, short forms for the common control characters, and `\u{…}` with the
hexadecimal code point for every character that cannot be seen on its own.
-/

namespace SubnetRouter.Text

def hexNumber (n : Nat) : List Char :=
  Nat.toDigits 16 n

def escapedCodePoint (c : Char) : List Char :=
  ['\\', 'u', '\x7b'] ++ hexNumber c.toNat ++ ['\x7d']

def quotedChar (mark c : Char) : List Char :=
  if c = mark ∨ c = '\\' then ['\\', c]
  else if c = '\n' then ['\\', 'n']
  else if c = '\r' then ['\\', 'r']
  else if c = '\t' then ['\\', 't']
  else if c = '\x00' then ['\\', '0']
  else if extendsGrapheme c || !isPrintable c then escapedCodePoint c
  else [c]

def quoted (text : String) : String :=
  String.ofList (['"'] ++ text.toList.flatMap (quotedChar '"') ++ ['"'])

/-- A byte in single quotes, shown as the character with its number. -/
def quotedByte (byte : UInt8) : String :=
  String.ofList (['\''] ++ quotedChar '\'' (Char.ofNat byte.toNat) ++ ['\''])

def Hex.Fault.message : Hex.Fault → String
  | .oddLength => "Odd number of digits"
  | .badByte byte index => "Invalid character " ++ quotedByte byte ++ " at position " ++ toString index

end SubnetRouter.Text
