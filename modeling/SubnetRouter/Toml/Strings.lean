import SubnetRouter.Toml.Value
import SubnetRouter.Json.Reader

/-!
# Strings in TOML text

Strings stand in double quotes, with escapes, or in single quotes, without; three quotes admit
line breaks.  Each reader takes the text after the opening quotes.
-/

namespace SubnetRouter.Toml

/-- Takes a value off the front of a text. -/
abbrev Reader (α : Type) := List Char → Option (α × List Char)

def isBlank (c : Char) : Bool := c = ' ' || c = '\t'

def skipBlanks (text : List Char) : List Char := text.dropWhile isBlank

/-- A character that may stand in a comment or, as itself, in a string. -/
def isVisible (c : Char) : Bool := c = '\t' || (0x20 ≤ c.toNat && c.toNat ≠ 0x7F)

def newLine? : List Char → Option (List Char)
  | '\n' :: rest => some rest
  | '\r' :: '\n' :: rest => some rest
  | _ => none

/-! ## Escapes -/

def shortEscape? (c : Char) : Option Char :=
  match c with
  | 'b' => some '\x08'
  | 't' => some '\t'
  | 'n' => some '\n'
  | 'f' => some '\x0c'
  | 'r' => some '\r'
  | 'e' => some '\x1b'
  | '"' => some '"'
  | '\\' => some '\\'
  | _ => none

/-- The character with the code point, which is no surrogate. -/
def scalar? (code : Nat) : Option Char :=
  if code.isValidChar then some (Char.ofNat code) else none

/-- Reads a code point of exactly `count` hex digits. -/
def readCodePoint (count : Nat) : Reader Char := fun text =>
  let digits := text.take count
  if digits.length < count then none
  else do
    let values ← digits.mapM Json.hexValue?
    let c ← scalar? (values.foldl (fun value d => value * 16 + d) 0)
    return (c, text.drop count)

def readEscape : Reader Char
  | 'x' :: rest => readCodePoint 2 rest
  | 'u' :: rest => readCodePoint 4 rest
  | 'U' :: rest => readCodePoint 8 rest
  | c :: rest => (shortEscape? c).map fun e => (e, rest)
  | [] => none

/-- Puts characters before what a reader of the rest has found. -/
def consChars (chars : List Char) (found : Option (List Char × List Char)) :
    Option (List Char × List Char) :=
  found.map fun (more, rest) => (chars ++ more, rest)

/-! ## Strings on one line -/

/-- Reads a string in double quotes; `fuel` bounds its length. -/
def readBasic : Nat → Reader (List Char)
  | 0, _ => none
  | fuel + 1, text =>
    match text with
    | '"' :: rest => some ([], rest)
    | '\\' :: rest => (readEscape rest).bind fun (c, rest) => consChars [c] (readBasic fuel rest)
    | c :: rest => if isVisible c then consChars [c] (readBasic fuel rest) else none
    | [] => none

def readLiteral : Reader (List Char) := fun text =>
  let chars := text.takeWhile (· ≠ '\'')
  match text.drop chars.length with
  | _ :: rest => if chars.all isVisible then some (chars, rest) else none
  | [] => none

/-! ## Strings on several lines -/

/-- Splits quotes at the front of a text from those that close the string.  Up to two of five
or more quotes belong to the string; fewer than three do not close it. -/
def closing? (quote : Char) (text : List Char) : Option (List Char × List Char) :=
  let count := (text.takeWhile (· = quote)).length
  if count < 3 then none
  else
    let taken := min count 5
    some (List.replicate (taken - 3) quote, text.drop taken)

/-- The text after blanks and line breaks; `fuel` bounds the number of lines. -/
def skipBlankLines : Nat → List Char → List Char
  | 0, text => text
  | fuel + 1, text =>
    match newLine? (skipBlanks text) with
    | some rest => skipBlankLines fuel rest
    | none => skipBlanks text

/-- The text after a backslash at the end of a line: all blanks and line breaks are left out.
The first line break must follow the backslash with nothing but blanks between. -/
def skipLineEnd? (text : List Char) : Option (List Char) :=
  (newLine? (skipBlanks text)).map fun rest => skipBlankLines rest.length rest

/-- Reads a string in three double quotes; `fuel` bounds its length. -/
def readLongBasic : Nat → Reader (List Char)
  | 0, _ => none
  | fuel + 1, text =>
    match closing? '"' text with
    | some found => some found
    | none =>
      match text with
      | '\\' :: rest =>
        match skipLineEnd? rest with
        | some rest => readLongBasic fuel rest
        | none => (readEscape rest).bind fun (c, rest) => consChars [c] (readLongBasic fuel rest)
      | '\n' :: rest => consChars ['\n'] (readLongBasic fuel rest)
      | '\r' :: '\n' :: rest => consChars ['\r', '\n'] (readLongBasic fuel rest)
      | c :: rest => if isVisible c then consChars [c] (readLongBasic fuel rest) else none
      | [] => none

/-- Reads a string in three single quotes; `fuel` bounds its length. -/
def readLongLiteral : Nat → Reader (List Char)
  | 0, _ => none
  | fuel + 1, text =>
    match closing? '\'' text with
    | some found => some found
    | none =>
      match text with
      | '\n' :: rest => consChars ['\n'] (readLongLiteral fuel rest)
      | '\r' :: '\n' :: rest => consChars ['\r', '\n'] (readLongLiteral fuel rest)
      | c :: rest => if isVisible c then consChars [c] (readLongLiteral fuel rest) else none
      | [] => none

def dropNewLine (text : List Char) : List Char := (newLine? text).getD text

def readString : Reader String := fun text =>
  let found := match text with
    | '"' :: '"' :: '"' :: rest => readLongBasic (rest.length + 1) (dropNewLine rest)
    | '\'' :: '\'' :: '\'' :: rest => readLongLiteral (rest.length + 1) (dropNewLine rest)
    | '"' :: rest => readBasic (rest.length + 1) rest
    | '\'' :: rest => readLiteral rest
    | _ => none
  found.map fun (chars, rest) => (String.ofList chars, rest)

end SubnetRouter.Toml
