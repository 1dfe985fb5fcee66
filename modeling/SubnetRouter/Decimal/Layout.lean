import SubnetRouter.Decimal.Shortest

/-!
# Layout of floating-point numbers

A number is written with its shortest digits, either with a decimal point among them or with an
exponent, as a layout says.
-/

namespace SubnetRouter.Decimal

def isNegative (x : Float) : Bool :=
  x.toBits.toNat / 0x8000000000000000 = 1

/-- How numbers are written.  Those whose decimal point stands at a place from `least` to `most`,
counted from the first digit, have no exponent; a missing bound admits every place. -/
structure Layout where
  least : Option Int
  most : Option Int
  /-- Which of two equally near decimals is written. -/
  tie : Tie
deriving Repr, DecidableEq

namespace Layout

/-- The place of the decimal point is within the bounds. -/
def admits (layout : Layout) (point : Int) : Bool :=
  layout.least.all (· ≤ point) && layout.most.all (point ≤ ·)

/-- The digits with a decimal point at the given place, and at least one digit on either side
of it. -/
def pointed (digits : List Char) (point : Int) : List Char :=
  if point ≤ 0 then ['0', '.'] ++ List.replicate (-point).toNat '0' ++ digits
  else if digits.length ≤ point.toNat then
    digits ++ List.replicate (point.toNat - digits.length) '0' ++ ['.', '0']
  else digits.take point.toNat ++ ['.'] ++ digits.drop point.toNat

/-- The digits with the point after the first one, and a signed exponent. -/
def scientific (digits : List Char) (point : Int) : List Char :=
  let exponent := point - 1
  let sign := if exponent < 0 then '-' else '+'
  let body := match digits with
    | first :: second :: rest => first :: '.' :: second :: rest
    | _ => digits
  body ++ ['e', sign] ++ Nat.toDigits 10 exponent.natAbs

def chars (layout : Layout) (x : Float) : List Char :=
  let sign := if isNegative x then ['-'] else []
  let body :=
    if x == 0.0 then ['0', '.', '0']
    else
      let decimal := (Binary.ofFloat x).shortest layout.tie
      let digits := Nat.toDigits 10 decimal.digits
      let point := (digits.length : Int) + decimal.exponent
      if layout.admits point then pointed digits point else scientific digits point
  sign ++ body

end Layout

end SubnetRouter.Decimal
