import SubnetRouter.Toml.Value

/-!
# Building TOML tables

A document is a list of assignments under headers.  Each is placed along a path of keys from
the table it starts at; tables that are missing on the way are added.  No key is assigned twice,
no table has two headers, and a table between braces is closed for good.
-/

namespace SubnetRouter.Toml

/-- Changes the table at the end of a path, with `dotted` for the path of an assignment.
`change` is told how that table came to be. -/
def changeAt (dotted : Bool) (change : Origin → Entries → Option Entries) (origin : Origin) :
    List String → Entries → Option Entries
  | [], entries => change origin entries
  | key :: path, entries =>
    match entries.lookup key with
    | none =>
      let origin := if dotted then .dotted else .implied
      (changeAt dotted change origin path []).map fun inner =>
        insertEntry key (.table origin inner) entries
    | some (.table origin inner) =>
      if origin = .braces ∨ (dotted ∧ origin = .header) then none
      else
        (changeAt dotted change origin path inner).map fun inner =>
          insertEntry key (.table origin inner) entries
    | some (.tables items) =>
      match items.getLast? with
      | none => none
      | some inner =>
        (changeAt dotted change .header path inner).map fun inner =>
          insertEntry key (.tables (items.dropLast ++ [inner])) entries
    | some _ => none

/-- Assigns a value to a dotted key, given as the path and the last key. -/
def assign (path : List String) (key : String) (value : Toml) (origin : Origin)
    (entries : Entries) : Option Entries :=
  changeAt true
    (fun origin inner =>
      if path.isEmpty = (origin = .dotted) then none
      else if (inner.lookup key).isSome then none
      else some (insertEntry key value inner))
    origin path entries

/-- An assignment: the keys before the last dot, the last key, and the value. -/
structure Assignment where
  path : List String
  key : String
  value : Toml

def assignAll (origin : Origin) (assignments : List Assignment) (entries : Entries) :
    Option Entries :=
  assignments.foldlM (fun entries a => assign a.path a.key a.value origin entries) entries

/-- A header and the assignments below it. -/
structure Section where
  /-- The header is a repeated one, in double brackets. -/
  repeated : Bool
  path : List String
  key : String
  assignments : List Assignment

def addSection (s : Section) (document : Entries) : Option Entries :=
  changeAt false
    (fun _ entries =>
      if s.repeated then
        match entries.lookup s.key with
        | none =>
          (assignAll .header s.assignments []).map fun inner =>
            insertEntry s.key (.tables [inner]) entries
        | some (.tables items) =>
          (assignAll .header s.assignments []).map fun inner =>
            insertEntry s.key (.tables (items ++ [inner])) entries
        | some _ => none
      else
        match entries.lookup s.key with
        | none =>
          (assignAll .header s.assignments []).map fun inner =>
            insertEntry s.key (.table .header inner) entries
        | some (.table .implied inner) =>
          (assignAll .header s.assignments inner).map fun inner =>
            insertEntry s.key (.table .header inner) entries
        | some _ => none)
    .header s.path document

/-- The table of a document: the assignments before the first header, and the sections. -/
def build (assignments : List Assignment) (sections : List Section) : Option Entries :=
  (assignAll .header assignments []).bind fun document =>
    sections.foldlM (fun document s => addSection s document) document

end SubnetRouter.Toml
