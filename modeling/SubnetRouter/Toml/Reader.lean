import SubnetRouter.Toml.Scalar
import SubnetRouter.Toml.Tables

/-!
# Reading TOML documents

Arrays and tables between braces nest at most 80 deep, and a dotted key has at most 80 parts.
Between braces, line breaks, comments and a comma at the end are admitted as between brackets.
-/

namespace SubnetRouter.Toml

/-- How deep values nest, and how many parts a dotted key has. -/
def maxDepth : Nat := 80

/-! ## Blanks and comments -/

/-- The text after a comment, if there is one at its front. -/
def skipComment? : List Char → Option (List Char)
  | '#' :: rest =>
    let rest := rest.dropWhile isVisible
    if rest.isEmpty || (newLine? rest).isSome then some rest else none
  | text => some text

/-- The text after the line: blanks, a comment, and a line break or the end. -/
def endLine? (text : List Char) : Option (List Char) :=
  (skipComment? (skipBlanks text)).bind fun rest =>
    if rest.isEmpty then some [] else newLine? rest

/-- The text after blanks, comments and line breaks; `fuel` bounds their number. -/
def skipLines? : Nat → List Char → Option (List Char)
  | 0, text => some text
  | fuel + 1, text =>
    match skipComment? (skipBlanks text) with
    | none => none
    | some rest =>
      match newLine? rest with
      | some rest => skipLines? fuel rest
      | none => some rest

/-- The text after all blanks, comments and line breaks. -/
def skipAll? (text : List Char) : Option (List Char) := skipLines? text.length text

/-! ## Keys -/

/-- A character of a key without quotes. -/
def isKeyChar (c : Char) : Bool := c.isAlphanum || c = '_' || c = '-'

def readKeyPart : Reader String := fun text =>
  match text with
  | '"' :: rest => (readBasic (rest.length + 1) rest).map fun (key, rest) => (String.ofList key, rest)
  | '\'' :: rest => (readLiteral rest).map fun (key, rest) => (String.ofList key, rest)
  | _ =>
    let key := text.takeWhile isKeyChar
    if key.isEmpty then none else some (String.ofList key, text.dropWhile isKeyChar)

/-- Reads a dotted key and the blanks around its parts, as the parts before the last one and the
last one; `fuel` bounds the number of parts. -/
def readKey : Nat → Reader (List String × String)
  | 0, _ => none
  | fuel + 1, text =>
    (readKeyPart (skipBlanks text)).bind fun (part, rest) =>
      match skipBlanks rest with
      | '.' :: rest => (readKey fuel rest).map fun ((path, key), rest) => ((part :: path, key), rest)
      | rest => some (([], part), rest)

/-! ## Values -/

/-- Reads a key, an equals sign and a value; `skip` passes over what may stand on either side of
the equals sign. -/
def readAssignment (skip : List Char → Option (List Char)) (value : Reader Toml) :
    Reader Assignment := fun text => do
  let ((path, key), rest) ← readKey maxDepth text
  match ← skip rest with
  | '=' :: rest =>
    let (v, rest) ← value (← skip rest)
    return (⟨path, key, v⟩, rest)
  | _ => none

/-- Reads the elements of a list up to the character that closes it, with commas between and
perhaps one at the end; `fuel` bounds their number. -/
def readList {α : Type} (element : Reader α) (close : Char) : Nat → Reader (List α)
  | 0, _ => none
  | fuel + 1, text =>
    match skipAll? text with
    | none => none
    | some [] => none
    | some (c :: rest) =>
      if c = close then some ([], rest)
      else
        (element (c :: rest)).bind fun (first, rest) =>
          match skipAll? rest with
          | some (c :: rest) =>
            if c = ',' then
              (readList element close fuel rest).map fun (others, rest) => (first :: others, rest)
            else if c = close then some ([first], rest)
            else none
          | _ => none

/-- Reads a value whose elements, if any, are read by `nested`. -/
def readShape (nested : Option (Reader Toml)) : Reader Toml := fun text =>
  match text with
  | '[' :: rest =>
    nested.bind fun value =>
      (readList value ']' (rest.length + 1) rest).map fun (items, rest) => (.array items, rest)
  | '{' :: rest =>
    nested.bind fun value => do
      let (assignments, rest) ← readList (readAssignment skipAll? value) '}' (rest.length + 1) rest
      let entries ← assignAll .braces assignments []
      return (.table .braces entries, rest)
  | c :: _ =>
    if c = '"' || c = '\'' then (readString text).map fun (value, rest) => (.string value, rest)
    else readWord text
  | [] => none

/-- Reads a value in which arrays and tables nest at most `depth` deep. -/
def readValue : Nat → Reader Toml
  | 0 => readShape none
  | depth + 1 => readShape (some (readValue depth))

/-! ## Documents -/

/-- A line of a document. -/
inductive Line where
  | assignment (a : Assignment)
  | header (repeated : Bool) (path : List String) (key : String)

/-- Reads a header or an assignment. -/
def readLine : Reader Line := fun text =>
  match text with
  | '[' :: '[' :: rest =>
    match readKey maxDepth rest with
    | some ((path, key), ']' :: ']' :: rest) => some (.header true path key, rest)
    | _ => none
  | '[' :: rest =>
    match readKey maxDepth rest with
    | some ((path, key), ']' :: rest) => some (.header false path key, rest)
    | _ => none
  | text =>
    (readAssignment (some ∘ skipBlanks) (readValue maxDepth) text).map fun (a, rest) =>
      (.assignment a, rest)

/-- Reads the lines of a document; `fuel` bounds their number. -/
def readLines : Nat → List Char → Option (List Line)
  | 0, _ => none
  | fuel + 1, text =>
    match skipAll? text with
    | none => none
    | some [] => some []
    | some text =>
      (readLine text).bind fun (line, rest) =>
        (endLine? rest).bind fun rest => (readLines fuel rest).map (line :: ·)

/-- The assignments before the first header, and the sections. -/
def sectionsOf : List Line → List Assignment × List Section
  | [] => ([], [])
  | .assignment a :: lines =>
    let (assignments, sections) := sectionsOf lines
    (a :: assignments, sections)
  | .header repeated path key :: lines =>
    let (assignments, sections) := sectionsOf lines
    ([], ⟨repeated, path, key, assignments⟩ :: sections)

def dropMark : List Char → List Char
  | '\uFEFF' :: rest => rest
  | text => text

def read? (text : String) : Option Entries :=
  let text := dropMark text.toList
  (readLines (text.length + 1) text).bind fun lines =>
    let (assignments, sections) := sectionsOf lines
    build assignments sections

end SubnetRouter.Toml
