import SubnetRouter.Files.Basic
import SubnetRouter.Text.Split

/-!
# Trees of files

A directory with files and directories in it, and what is found when a path is followed from
there.  Nothing but the tree itself is known of the directories above it.
-/

namespace SubnetRouter

/-- A file or a directory. -/
inductive FileTree where
  | file (content : ByteArray)
  | directory (children : List (String × FileTree))

namespace FileTree

/-- The parts of a path between slashes, without empty ones. -/
def parts (path : String) : List String :=
  ((Text.pieces (· = '/') path.toList).filter (!·.isEmpty)).map String.ofList

/-- The directory with a file at the end of the path, and directories on the way to it. -/
def insert (content : ByteArray) : List String → List (String × FileTree) →
    List (String × FileTree)
  | [], children => children
  | [name], children => (name, .file content) :: children
  | name :: rest, children =>
    let inner := match children.lookup name with
      | some (.directory inner) => inner
      | _ => []
    (name, .directory (insert content rest inner)) :: children

def ofFiles (files : List (String × ByteArray)) : FileTree :=
  .directory (files.foldl (fun children (path, content) => insert content (parts path) children) [])

def maxNameBytes : Nat := 255

def maxPathBytes : Nat := 4095

/-- A place on the way: the directories from here up to the top of the tree, or a number of
levels above the top. -/
inductive Place where
  | inside (here : List (String × FileTree)) (above : List (List (String × FileTree)))
  | outside (levels : Nat)

def Place.up : Place → Place
  | .inside _ (parent :: above) => .inside parent above
  | .inside _ [] => .outside 0
  | .outside levels => .outside (levels + 1)

def follow : Place → List String → Except FileFault ByteArray
  | _, [] => .error .isDirectory
  | place, "." :: rest => follow place rest
  | place, ".." :: rest => follow place.up rest
  | place, name :: rest =>
    if maxNameBytes < name.utf8ByteSize then .error .nameTooLong
    else
      match place with
      | .outside _ => .error .notFound
      | .inside here above =>
        match here.lookup name with
        | none => .error .notFound
        | some (.directory children) => follow (.inside children (here :: above)) rest
        | some (.file content) => if rest.isEmpty then .ok content else .error .notDirectory

/-- The parts of a path; a slash at its end asks for a directory. -/
def route (path : String) : List String :=
  parts path ++ if path.toList.getLast? = some '/' then ["."] else []

def files (tree : FileTree) : Files := fun path =>
  if path.toList.contains '\x00' then .error .zeroInName
  else if maxPathBytes < path.utf8ByteSize then .error .nameTooLong
  else if path.isEmpty then .error .notFound
  else
    match tree with
    | .file _ => .error .notDirectory
    | .directory children =>
      if path.toList.head? = some '/' then follow (.outside 0) (route path)
      else follow (.inside children []) (route path)

end FileTree

end SubnetRouter
