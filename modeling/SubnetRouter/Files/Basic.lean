/-!
# Files

What a program sees of files: for each path, the bytes of the file there or why there is none.
-/

namespace SubnetRouter

/-- Why the text of a file cannot be had. -/
inductive FileFault where
  | notFound
  | notDirectory
  | isDirectory
  | nameTooLong
  /-- The path holds a zero character, which no name may. -/
  | zeroInName
  | notText
  | other (wording : String)
deriving Repr, DecidableEq

def FileFault.message : FileFault → String
  | .notFound => "No such file or directory (os error 2)"
  | .notDirectory => "Not a directory (os error 20)"
  | .isDirectory => "Is a directory (os error 21)"
  | .nameTooLong => "File name too long (os error 36)"
  | .zeroInName => "file name contained an unexpected NUL byte"
  | .notText => "stream did not contain valid UTF-8"
  | .other wording => wording

/-- The bytes of the file at each path. -/
abbrev Files := String → Except FileFault ByteArray

namespace Files

def readText (files : Files) (path : String) : Except FileFault String :=
  match files path with
  | .error fault => .error fault
  | .ok bytes =>
    match String.fromUTF8? bytes with
    | some text => .ok text
    | none => .error .notText

/-- The path of `name` in a directory; a name that begins with a slash is a path of its own. -/
def join (directory name : String) : String :=
  if name.toList.head? = some '/' then name
  else if directory.isEmpty || directory.toList.getLast? = some '/' then directory ++ name
  else directory ++ "/" ++ name

end Files

end SubnetRouter
