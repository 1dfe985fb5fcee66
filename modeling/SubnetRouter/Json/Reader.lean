import SubnetRouter.Json.Numeral

/-!
# Reading JSON text

Arrays and objects nest at most 127 deep.  A reader takes a value off the front of a text and
returns it with the text that follows; the depth that is still allowed bounds its recursion,
and the length of the text bounds the number of items.
-/

namespace SubnetRouter.Json

/-- Takes a value off the front of a text. -/
abbrev Reader (α : Type) := List Char → Option (α × List Char)

def isSpace (c : Char) : Bool :=
  c = ' ' || c = '\n' || c = '\t' || c = '\r'

def skipSpace (text : List Char) : List Char :=
  text.dropWhile isSpace

/-! ## Strings -/

def hexValue? (c : Char) : Option Nat :=
  if '0' ≤ c ∧ c ≤ '9' then some (c.toNat - 48)
  else if 'a' ≤ c ∧ c ≤ 'f' then some (c.toNat - 87)
  else if 'A' ≤ c ∧ c ≤ 'F' then some (c.toNat - 55)
  else none

def codeUnit? (a b c d : Char) : Option Nat := do
  return (((← hexValue? a) * 16 + (← hexValue? b)) * 16 + (← hexValue? c)) * 16 + (← hexValue? d)

def isHighSurrogate (unit : Nat) : Bool := 0xD800 ≤ unit && unit < 0xDC00

def isLowSurrogate (unit : Nat) : Bool := 0xDC00 ≤ unit && unit < 0xE000

def ofSurrogates (high low : Nat) : Char :=
  Char.ofNat (0x10000 + (high - 0xD800) * 0x400 + (low - 0xDC00))

def shortEscape? (c : Char) : Option Char :=
  match c with
  | '"' => some '"'
  | '\\' => some '\\'
  | '/' => some '/'
  | 'b' => some '\x08'
  | 'f' => some '\x0c'
  | 'n' => some '\n'
  | 'r' => some '\r'
  | 't' => some '\t'
  | _ => none

/-- Puts a character before what a reader of the rest has found. -/
def consChar (c : Char) (found : Option (List Char × List Char)) :
    Option (List Char × List Char) :=
  found.map fun (chars, rest) => (c :: chars, rest)

def readChars : Reader (List Char)
  | [] => none
  | '"' :: rest => some ([], rest)
  | '\\' :: 'u' :: a :: b :: c :: d :: rest =>
    match codeUnit? a b c d with
    | none => none
    | some unit =>
      if isHighSurrogate unit then
        match rest with
        | '\\' :: 'u' :: e :: f :: g :: h :: rest =>
          match codeUnit? e f g h with
          | none => none
          | some low =>
            if isLowSurrogate low then consChar (ofSurrogates unit low) (readChars rest) else none
        | _ => none
      else if isLowSurrogate unit then none
      else consChar (Char.ofNat unit) (readChars rest)
  | '\\' :: c :: rest =>
    match shortEscape? c with
    | none => none
    | some e => consChar e (readChars rest)
  | c :: rest => if c = '\\' ∨ c.toNat < 0x20 then none else consChar c (readChars rest)

def readString : Reader String := fun text =>
  (readChars text).map fun (chars, rest) => (String.ofList chars, rest)

/-! ## Arrays and objects -/

variable {α : Type}

/-- Reads items from the first one on, a comma between any two, up to the closing mark; `fuel`
bounds their number. -/
def readItems (item : Reader α) (close : Char) : Nat → Reader (List α)
  | 0, _ => none
  | fuel + 1, text =>
    match item text with
    | none => none
    | some (first, text) =>
      match skipSpace text with
      | [] => none
      | mark :: rest =>
        if mark = close then some ([first], rest)
        else if mark = ',' then
          (readItems item close fuel rest).map fun (items, rest) => (first :: items, rest)
        else none

/-- Reads items, if any, and the closing mark.  Blanks before an item are left to its reader. -/
def readSequence (item : Reader α) (close : Char) : Reader (List α) := fun text =>
  match skipSpace text with
  | [] => none
  | mark :: rest =>
    if mark = close then some ([], rest)
    else readItems item close text.length text

def readArray (value : Reader Json) : Reader Json := fun text =>
  (readSequence value ']' text).map fun (items, rest) => (.array items, rest)

def readMember (value : Reader Json) : Reader (String × Json) := fun text =>
  match skipSpace text with
  | '"' :: rest =>
    match readString rest with
    | none => none
    | some (name, rest) =>
      match skipSpace rest with
      | ':' :: rest => (value rest).map fun (item, rest) => ((name, item), rest)
      | _ => none
  | _ => none

def readObject (value : Reader Json) : Reader Json := fun text =>
  (readSequence (readMember value) '}' text).map fun (members, rest) => (ofMembers members, rest)

/-! ## Values -/

def readNumber : Reader Json := fun text =>
  match readNumeral text with
  | none => none
  | some (numeral, rest) => numeral.number?.map fun number => (.number number, rest)

/-- Reads a value whose items, if any, are read by `nested`. -/
def readShape (nested : Option (Reader Json)) : Reader Json
  | '"' :: rest => (readString rest).map fun (value, rest) => (.string value, rest)
  | '[' :: rest => nested.bind fun value => readArray value rest
  | '{' :: rest => nested.bind fun value => readObject value rest
  | 'n' :: 'u' :: 'l' :: 'l' :: rest => some (.null, rest)
  | 't' :: 'r' :: 'u' :: 'e' :: rest => some (.bool true, rest)
  | 'f' :: 'a' :: 'l' :: 's' :: 'e' :: rest => some (.bool false, rest)
  | text => readNumber text

/-- Reads a value, after blanks, in which arrays and objects nest at most `depth` deep. -/
def readValue : Nat → Reader Json
  | 0, text => readShape none (skipSpace text)
  | depth + 1, text => readShape (some (readValue depth)) (skipSpace text)

def maxDepth : Nat := 127

/-- The value of a JSON text; nothing but blanks may stand around it. -/
def read? (text : String) : Option Json :=
  match readValue maxDepth text.toList with
  | some (value, rest) => if (skipSpace rest).isEmpty then some value else none
  | none => none

end SubnetRouter.Json
