import SubnetRouter.Json.Value

/-!
# Numerals in JSON text

A numeral without fraction and exponent is an integer as long as it fits; all other numerals
are floating-point numbers.  Their digits are gathered into a 64-bit significand as far as they
fit, the digits beyond count as powers of ten only, and the significand is then scaled by the
remaining power of ten in floating-point arithmetic.
-/

namespace SubnetRouter.Json

/-- The parts of a numeral.  The digits are values from zero to nine. -/
structure Numeral where
  negative : Bool
  whole : List Nat
  /-- The digits after the point, none if there is no point. -/
  fraction : List Nat
  /-- The magnitude of the exponent, and whether it is negative. -/
  exponent : Option (Bool × Nat)
deriving Repr, DecidableEq

def spanDigits (text : List Char) : List Nat × List Char :=
  ((text.takeWhile Char.isDigit).map (·.toNat - 48), text.dropWhile Char.isDigit)

def ofDigits (digits : List Nat) : Nat :=
  digits.foldl (fun value d => value * 10 + d) 0

/-- Reads the digits before the point: a zero stands alone. -/
def readWhole : List Char → Option (List Nat × List Char)
  | '0' :: rest => if (rest.head?.any Char.isDigit) then none else some ([0], rest)
  | text =>
    let (digits, rest) := spanDigits text
    if digits.isEmpty then none else some (digits, rest)

def readFraction : List Char → Option (List Nat × List Char)
  | '.' :: rest =>
    let (digits, rest) := spanDigits rest
    if digits.isEmpty then none else some (digits, rest)
  | text => some ([], text)

def readMagnitude (negative : Bool) (text : List Char) :
    Option (Option (Bool × Nat) × List Char) :=
  let (digits, rest) := spanDigits text
  if digits.isEmpty then none else some (some (negative, ofDigits digits), rest)

def readSignedExponent : List Char → Option (Option (Bool × Nat) × List Char)
  | '+' :: rest => readMagnitude false rest
  | '-' :: rest => readMagnitude true rest
  | rest => readMagnitude false rest

def readExponent : List Char → Option (Option (Bool × Nat) × List Char)
  | 'e' :: rest => readSignedExponent rest
  | 'E' :: rest => readSignedExponent rest
  | text => some (none, text)

def readUnsigned (negative : Bool) (text : List Char) : Option (Numeral × List Char) := do
  let (whole, text) ← readWhole text
  let (fraction, text) ← readFraction text
  let (exponent, text) ← readExponent text
  return (⟨negative, whole, fraction, exponent⟩, text)

def readNumeral : List Char → Option (Numeral × List Char)
  | '-' :: rest => readUnsigned true rest
  | text => readUnsigned false text

namespace Numeral

/-- Appends digits to a significand while it stays below 2^64; the digits left over follow. -/
def gather (significand : Nat) : List Nat → Nat × List Nat
  | [] => (significand, [])
  | d :: rest =>
    let next := significand * 10 + d
    if next < 0x10000000000000000 then gather next rest else (significand, d :: rest)

def powerOfTen (exponent : Nat) : Float :=
  Float.ofScientific 1 false exponent

/-- Divides by a power of ten, in steps of at most 308 places. -/
def shrink (value : Float) (places : Nat) : Float :=
  if places ≤ 308 then value / powerOfTen places
  else
    let next := value / powerOfTen 308
    if next == 0.0 then 0.0 else shrink next (places - 308)
termination_by places

/-- The significand times a power of ten, unless that is out of range. -/
def scale? (significand : Nat) (exponent : Int) : Option Float :=
  let value := (UInt64.ofNat significand).toFloat
  if exponent < 0 then some (shrink value exponent.natAbs)
  else if significand = 0 then some 0.0
  else if exponent.natAbs ≤ 308 then
    let scaled := value * powerOfTen exponent.natAbs
    if scaled.isInf then none else some scaled
  else none

/-- The magnitude as a floating-point number.  An exponent of more than 31 bits gives zero or is
out of range, whatever the digits. -/
def magnitude? (n : Numeral) : Option Float :=
  let (whole, wholeLeft) := gather 0 n.whole
  let (significand, fractionLeft) := gather whole n.fraction
  let places : Int := (wholeLeft.length : Int) + fractionLeft.length - n.fraction.length
  match n.exponent with
  | none => scale? significand places
  | some (negative, exponent) =>
    if exponent < 0x80000000 then
      scale? significand (if negative then places - exponent else places + exponent)
    else if significand = 0 ∨ negative then some 0.0 else none

/-- The number of a numeral.  A negative zero is a floating-point number, as is every integer
that does not fit. -/
def number? (n : Numeral) : Option Number :=
  let value : Int := if n.negative then -ofDigits n.whole else ofDigits n.whole
  let isInteger := n.fraction.isEmpty && n.exponent.isNone && !(n.negative && value == 0)
  if h : FitsInteger value ∧ isInteger = true then some (.int value h.1)
  else n.magnitude?.map fun x => .float (if n.negative then -x else x)

end Numeral

end SubnetRouter.Json
