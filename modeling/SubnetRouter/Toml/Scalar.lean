import SubnetRouter.Decimal.Shortest
import SubnetRouter.Text.Split
import SubnetRouter.Text.Trailing
import SubnetRouter.Toml.Strings

/-!
# Numbers, truth values and dates in TOML text

A scalar without quotes is a word; the whole word decides what it is.  Some words have the form
of a number and yet denote none, such as `0x`, `1_a` or `1e999`: they are kept as they are until
somebody asks for the number.
-/

namespace SubnetRouter.Toml

/-! ## Parts of numbers -/

/-- The character is a digit of the base. -/
def isDigitOf (base : Nat) (c : Char) : Bool :=
  (Json.hexValue? c).any (· < base)

def ofDigits (base : Nat) (digits : List Char) : Nat :=
  digits.foldl (fun value c => value * base + (Json.hexValue? c).getD 0) 0

def withoutUnderscores (text : List Char) : List Char := text.filter (· ≠ '_')

/-- A digit stands on both sides of each underscore, where the text is given by the pieces
between underscores.  A sign alone may stand in place of the first digit. -/
def underscoresInForm (isDigit : Char → Bool) : List (List Char) → Bool
  | piece :: next :: rest =>
    (piece.length = 1 || piece.getLast?.any isDigit) && next.head?.any isDigit
      && underscoresInForm isDigit (next :: rest)
  | _ => true

def splitSign : List Char → Bool × List Char
  | '-' :: rest => (true, rest)
  | '+' :: rest => (false, rest)
  | word => (false, word)

def signed (negative : Bool) (value : Nat) : Int :=
  if negative then -(value : Int) else value

/-- A word with the form of a number that denotes none. -/
def malformedWord (word : List Char) : Toml := .malformed (String.ofList word)

/-! ## Integers -/

/-- Reads the digits of an integer in a base.  None at all are in form. -/
def readInBase? (word : List Char) (base : Nat) (digits : List Char) : Option Toml :=
  let pieces := Text.pieces (· = '_') digits
  if digits.isEmpty then some (malformedWord word)
  else if pieces.all fun piece => !piece.isEmpty && piece.all (isDigitOf base) then
    some (.integer (ofDigits base pieces.flatten))
  else none

/-- The mark of a fraction or an exponent. -/
def isFloatMark (c : Char) : Bool := c = '.' || c = 'e' || c = 'E'

/-- Reads a decimal integer.  Digits up to the first underscore and hex digits beside the
underscores are all that the form asks for. -/
def readDecimal? (word : List Char) : Option Toml :=
  let (negative, unsigned) := splitSign word
  let digits := withoutUnderscores unsigned
  let rest := unsigned.dropWhile (isDigitOf 10)
  let inForm := rest.isEmpty || (rest.head? = some '_' && !rest.any isFloatMark
    && underscoresInForm (isDigitOf 16) (Text.pieces (· = '_') word))
  if digits.isEmpty || !inForm || (unsigned.head? = some '0' && 1 < unsigned.length) then none
  else if digits.all (isDigitOf 10) then some (.integer (signed negative (ofDigits 10 digits)))
  else some (malformedWord word)

/-- Reads an integer; only decimal ones have a sign. -/
def readInteger? (word : List Char) : Option Toml :=
  match word with
  | '0' :: 'x' :: digits => readInBase? word 16 digits
  | '0' :: 'o' :: digits => readInBase? word 8 digits
  | '0' :: 'b' :: digits => readInBase? word 2 digits
  | _ => readDecimal? word

/-! ## Floating-point numbers -/

/-- The nearest floating-point number, unless it is too large. -/
def nearest? (x : Decimal) : Option Float :=
  let top := (Nat.toDigits 10 x.digits).length + x.exponent
  if x.digits = 0 ∨ top < -400 then some 0.0
  else if 400 < top then none
  else
    let value := Float.ofScientific x.digits (x.exponent < 0) x.exponent.natAbs
    if value.isInf then none else some value

/-- Reads the digits at the front of a text; there is at least one. -/
def readDigits : Reader (List Char) := fun text =>
  let digits := text.takeWhile (isDigitOf 10)
  if digits.isEmpty then none else some (digits, text.dropWhile (isDigitOf 10))

def readPlaces : Reader (List Char)
  | '.' :: text => readDigits text
  | text => some ([], text)

/-- Reads an exponent, if there is one. -/
def readExponent? : List Char → Option Int
  | [] => some 0
  | mark :: text =>
    let (negative, text) := splitSign text
    match readDigits text with
    | some (digits, []) =>
      if mark = 'e' || mark = 'E' then some (signed negative (ofDigits 10 digits)) else none
    | _ => none

def readMagnitude? (text : List Char) : Option Decimal := do
  let (whole, rest) ← readDigits text
  let (places, rest) ← readPlaces rest
  let exponent ← readExponent? rest
  if text.any isFloatMark then
    return ⟨ofDigits 10 (whole ++ places), exponent - places.length⟩
  else none

/-- A zero stands in front of other digits of a number. -/
def hasLeadingZero (unsigned : List Char) : Bool :=
  let whole := unsigned.takeWhile fun c => isDigitOf 10 c || c = '_'
  whole.head? = some '0' && 1 < (withoutUnderscores whole).length

def readFloat? (word : List Char) : Option Toml :=
  let (negative, unsigned) := splitSign word
  let withSign (x : Float) : Toml := .float (if negative then -x else x)
  match String.ofList unsigned with
  | "inf" => some (withSign (1.0 / 0.0))
  | "nan" => some (withSign (0.0 / 0.0))
  | _ =>
    if hasLeadingZero unsigned
      || !underscoresInForm (isDigitOf 10) (Text.pieces (· = '_') word) then none
    else
      (readMagnitude? (withoutUnderscores unsigned)).map fun decimal =>
        match nearest? decimal with
        | some x => withSign x
        | none => malformedWord word

/-! ## Dates and times -/

/-- Reads exactly `count` decimal digits whose value lies within the bounds. -/
def readField (count least most : Nat) : Reader (List Char) := fun text =>
  let digits := text.take count
  let value := ofDigits 10 digits
  if digits.length = count && digits.all (isDigitOf 10) && least ≤ value && value ≤ most then
    some (digits, text.drop count)
  else none

def readMark (mark : Char) : Reader Unit
  | c :: rest => if c = mark then some ((), rest) else none
  | [] => none

def daysOf (year month : Nat) : Nat :=
  if month = 2 then
    if year % 4 = 0 ∧ (year % 100 ≠ 0 ∨ year % 400 = 0) then 29 else 28
  else if [4, 6, 9, 11].contains month then 30
  else 31

def readDate : Reader (List Char) := fun text => do
  let (year, text) ← readField 4 0 9999 text
  let ((), text) ← readMark '-' text
  let (month, text) ← readField 2 1 12 text
  let ((), text) ← readMark '-' text
  let (day, text) ← readField 2 1 (daysOf (ofDigits 10 year) (ofDigits 10 month)) text
  return (year ++ '-' :: month ++ '-' :: day, text)

/-- Reads the fraction of a second after its point, to nine places.  A zero fraction is left
out. -/
def readFraction : Reader (List Char) := fun text =>
  (readDigits text).map fun (digits, text) =>
    let significant := Text.dropEnd (· = '0') (digits.take 9)
    (if significant.isEmpty then [] else '.' :: significant, text)

/-- Reads the seconds; where they are left out, none have passed. -/
def readSeconds : Reader (List Char)
  | ':' :: text => do
    let (seconds, text) ← readField 2 0 60 text
    let (fraction, text) ← match text with
      | '.' :: rest => readFraction rest
      | _ => some ([], text)
    return (':' :: seconds ++ fraction, text)
  | text => some ([':', '0', '0'], text)

def readTime : Reader (List Char) := fun text => do
  let (hour, text) ← readField 2 0 23 text
  let ((), text) ← readMark ':' text
  let (minute, text) ← readField 2 0 59 text
  let (seconds, text) ← readSeconds text
  return (hour ++ ':' :: minute ++ seconds, text)

def readOffset? : List Char → Option (List Char)
  | [] => some []
  | ['Z'] => some ['Z']
  | ['z'] => some ['Z']
  | sign :: text => do
    if sign ≠ '+' ∧ sign ≠ '-' then none
    let (hour, text) ← readField 2 0 23 text
    let ((), text) ← readMark ':' text
    let (minute, text) ← readField 2 0 59 text
    let sign := if ofDigits 10 (hour ++ minute) = 0 then '+' else sign
    if text.isEmpty then return sign :: hour ++ ':' :: minute else none

def readDatetime? (word : List Char) : Option (List Char) :=
  match readDate word with
  | some (date, []) => some date
  | some (date, mark :: rest) =>
    if ['T', 't', ' '].contains mark then do
      let (time, rest) ← readTime rest
      let offset ← readOffset? rest
      return date ++ 'T' :: time ++ offset
    else none
  | none =>
    match readTime word with
    | some (time, []) => some time
    | _ => none

/-! ## Words -/

def isWordChar (c : Char) : Bool :=
  !(['=', ',', '[', ']', '{', '}', ' ', '\t', '#', '\r', '\n'].contains c)

def ofWord? (word : List Char) : Option Toml :=
  match String.ofList word with
  | "true" => some (.boolean true)
  | "false" => some (.boolean false)
  | _ =>
    readInteger? word <|> readFloat? word
      <|> (readDatetime? word).map fun text => .datetime (String.ofList text)

/-- Splits the word off the front of a text.  A date takes the time after one blank with it. -/
def spanWord (text : List Char) : List Char × List Char :=
  let word := text.takeWhile isWordChar
  match text.drop word.length with
  | ' ' :: rest =>
    if (readDate word).any (·.2.isEmpty) && rest.head?.any Char.isDigit then
      (word ++ ' ' :: rest.takeWhile isWordChar, rest.dropWhile isWordChar)
    else (word, ' ' :: rest)
  | rest => (word, rest)

def readWord : Reader Toml := fun text =>
  let (word, rest) := spanWord text
  (ofWord? word).map fun value => (value, rest)

end SubnetRouter.Toml
