import SubnetRouter.Decimal.Layout
import SubnetRouter.Json.Value
import SubnetRouter.Text.Quoted

/-!
# Writing JSON text

The compact form has no blanks; the indented form has one item or member a line, two blanks
for each level of nesting.
-/

namespace SubnetRouter.Json

/-- Floating-point numbers have an exponent when the decimal point is not within five places
before the first digit or sixteen after it. -/
def floatLayout : Decimal.Layout := ⟨some (-4), some 16, .even⟩

def Number.chars : Number → List Char
  | .int value _ =>
    if value < 0 then '-' :: Nat.toDigits 10 value.natAbs else Nat.toDigits 10 value.natAbs
  | .float value => floatLayout.chars value

def charText (c : Char) : List Char :=
  if c = '"' ∨ c = '\\' then ['\\', c]
  else if c = '\n' then ['\\', 'n']
  else if c = '\r' then ['\\', 'r']
  else if c = '\t' then ['\\', 't']
  else if c = '\x08' then ['\\', 'b']
  else if c = '\x0c' then ['\\', 'f']
  else if c.toNat < 0x20 then
    ['\\', 'u', '0', '0', Text.Hex.digit (UInt8.ofNat (c.toNat / 16)),
      Text.Hex.digit (UInt8.ofNat (c.toNat % 16))]
  else [c]

def stringChars (value : String) : List Char :=
  '"' :: value.toList.flatMap charText ++ ['"']

def boolChars (value : Bool) : List Char :=
  if value then ['t', 'r', 'u', 'e'] else ['f', 'a', 'l', 's', 'e']

mutual

def compactChars : Json → List Char
  | .null => ['n', 'u', 'l', 'l']
  | .bool value => boolChars value
  | .number value => value.chars
  | .string value => stringChars value
  | .array [] => ['[', ']']
  | .array (item :: items) => '[' :: compactChars item ++ compactItems items
  | .object [] => ['{', '}']
  | .object ((name, value) :: members) =>
    '{' :: stringChars name ++ ':' :: compactChars value ++ compactMembers members

/-- The items after the first one, and the closing bracket. -/
def compactItems : List Json → List Char
  | [] => [']']
  | item :: items => ',' :: compactChars item ++ compactItems items

/-- The members after the first one, and the closing brace. -/
def compactMembers : List (String × Json) → List Char
  | [] => ['}']
  | (name, value) :: members =>
    ',' :: stringChars name ++ ':' :: compactChars value ++ compactMembers members

end

def newLine (level : Nat) : List Char :=
  '\n' :: List.replicate (2 * level) ' '

mutual

/-- The indented form of a value at a level of nesting. -/
def indentedChars (level : Nat) : Json → List Char
  | .null => ['n', 'u', 'l', 'l']
  | .bool value => boolChars value
  | .number value => value.chars
  | .string value => stringChars value
  | .array [] => ['[', ']']
  | .array (item :: items) =>
    '[' :: newLine (level + 1) ++ indentedChars (level + 1) item ++ indentedItems level items
  | .object [] => ['{', '}']
  | .object ((name, value) :: members) =>
    '{' :: newLine (level + 1) ++ stringChars name ++ ':' :: ' ' :: indentedChars (level + 1) value
      ++ indentedMembers level members

/-- The items after the first one, and the closing bracket. -/
def indentedItems (level : Nat) : List Json → List Char
  | [] => newLine level ++ [']']
  | item :: items =>
    ',' :: newLine (level + 1) ++ indentedChars (level + 1) item ++ indentedItems level items

/-- The members after the first one, and the closing brace. -/
def indentedMembers (level : Nat) : List (String × Json) → List Char
  | [] => newLine level ++ ['}']
  | (name, value) :: members =>
    ',' :: newLine (level + 1) ++ stringChars name ++ ':' :: ' ' :: indentedChars (level + 1) value
      ++ indentedMembers level members

end

def compact (value : Json) : String :=
  String.ofList (compactChars value)

def indented (value : Json) : String :=
  String.ofList (indentedChars 0 value)

end SubnetRouter.Json
