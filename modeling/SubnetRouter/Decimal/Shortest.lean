/-!
# Shortest decimals of binary floating-point numbers

The decimal of a positive number `m · 2^q` is taken from the coarsest grid of powers of ten that
has a point among the reals that round to the number.  Of two such points the nearer one is
taken, and of two equally near ones the one that the tie rule says.
-/

namespace SubnetRouter

/-- A positive number `mantissa · 2^exponent` of a binary format. -/
structure Binary where
  mantissa : Nat
  exponent : Int
  /-- The next number below is half as far as the next one above. -/
  narrowBelow : Bool
deriving Repr, DecidableEq

/-- A decimal `digits · 10^exponent`. -/
structure Decimal where
  digits : Nat
  exponent : Int
deriving Repr, DecidableEq

/-- Which of two equally near points is taken. -/
inductive Decimal.Tie where
  | even
  | up
deriving Repr, DecidableEq

/-- The magnitude of a finite number that is not zero. -/
def Binary.ofFloat (x : Float) : Binary :=
  let bits := x.toBits.toNat
  let fraction := bits % 0x10000000000000
  let scale : Nat := bits / 0x10000000000000 % 0x800
  if scale = 0 then ⟨fraction, -1074, false⟩
  else ⟨0x10000000000000 + fraction, (scale : Int) - 1075, fraction = 0 && 1 < scale⟩

namespace Binary

/-- A power with an integer exponent as a numerator and a denominator. -/
def power (base : Nat) (exponent : Int) : Nat × Nat :=
  (base.pow exponent.toNat, base.pow (-exponent).toNat)

/-- The point of the grid `10^exponent` that stands for the number, if the grid has one among
the reals that round to it.  All comparisons are between quarters of the mantissa's unit. -/
def onGrid? (x : Binary) (tie : Decimal.Tie) (exponent : Int) : Option Nat :=
  let (binaryUp, binaryDown) := power 2 (x.exponent - 2)
  let (decimalUp, decimalDown) := power 10 exponent
  let scale := binaryUp * decimalDown
  let step := binaryDown * decimalUp
  let value := 4 * x.mantissa * scale
  let low := (4 * x.mantissa - if x.narrowBelow then 1 else 2) * scale
  let high := (4 * x.mantissa + 2) * scale
  let closed : Bool := x.mantissa % 2 = 0
  let rounds (point : Nat) : Bool :=
    if closed then low ≤ point * step && point * step ≤ high
    else low < point * step && point * step < high
  let below := value / step
  let above := below + 1
  let toBelow := value - below * step
  let toAbove := above * step - value
  let nearest := if toBelow < toAbove then below
    else if toAbove < toBelow then above
    else if tie = .even && below % 2 = 0 then below else above
  if rounds below && rounds above then some nearest
  else if rounds below then some below
  else if rounds above then some above
  else none

/-- Tries grids from coarse to fine. -/
def search (x : Binary) (tie : Decimal.Tie) : Nat → Int → Decimal
  | 0, exponent => ⟨(x.onGrid? tie exponent).getD 0, exponent⟩
  | tries + 1, exponent =>
    match x.onGrid? tie exponent with
    | some digits => ⟨digits, exponent⟩
    | none => search x tie tries (exponent - 1)

/-- An exponent of ten above every decimal digit of the number. -/
def topExponent (x : Binary) : Int :=
  ((x.mantissa.log2 : Int) + 1 + x.exponent) * 30103 / 100000 + 1

/-- The decimal with the fewest digits that rounds to the number.  Seventeen digits always
suffice, and the search starts at most a few grids above the first digit. -/
def shortest (x : Binary) (tie : Decimal.Tie) : Decimal :=
  x.search tie 24 x.topExponent

end Binary

end SubnetRouter
