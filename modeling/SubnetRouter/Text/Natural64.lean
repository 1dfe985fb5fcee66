/-!
# Unsigned 64-bit numbers in decimal

The reader takes an optional `+` and one or more ASCII digits.  Digits are read from left to
right, and at each place a character that is no digit counts before a value that is too large.
-/

namespace SubnetRouter.Text.Natural64

/-- Why a text is no unsigned 64-bit number. -/
inductive Fault where
  | empty
  /-- A character is no digit, or a sign stands alone. -/
  | badDigit
  | tooLarge
deriving Repr, DecidableEq

def Fault.message : Fault → String
  | .empty => "cannot parse integer from empty string"
  | .badDigit => "invalid digit found in string"
  | .tooLarge => "number too large to fit in target type"

def digitValue? (c : Char) : Option Nat :=
  if '0' ≤ c ∧ c ≤ '9' then some (c.toNat - 48) else none

/-- Reads the remaining digits onto the value of those before them. -/
def readDigits (value : UInt64) : List Char → Except Fault UInt64
  | [] => .ok value
  | c :: rest =>
    match digitValue? c with
    | none => .error .badDigit
    | some d =>
      let next := value.toNat * 10 + d
      if next < UInt64.size then readDigits (UInt64.ofNat next) rest else .error .tooLarge

def read : List Char → Except Fault UInt64
  | [] => .error .empty
  | ['+'] => .error .badDigit
  | '+' :: digits => readDigits 0 digits
  | digits => readDigits 0 digits

def write (n : UInt64) : List Char :=
  Nat.toDigits 10 n.toNat

end SubnetRouter.Text.Natural64
