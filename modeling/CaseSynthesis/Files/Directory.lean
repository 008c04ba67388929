import CaseSynthesis.Files.Basic

/-! A directory held in memory. -/

namespace CaseSynthesis

/-- The files in a directory and those below it, by path. Nothing is known outside of it. -/
abbrev Directory := List (String × ByteArray)

namespace Directory

def parts (path : String) : List String := path.splitOn "/"

def names (path : String) : List String :=
  (parts path).filter fun part => part != "" && part != "."

def bytes? (directory : Directory) (names : List String) : Option ByteArray :=
  (directory.find? fun file => Directory.names file.1 == names).map Prod.snd

def isDirectory (directory : Directory) (names : List String) : Bool :=
  directory.any fun file => names.isPrefixOf (Directory.names file.1)

def follow (directory : Directory) (place : List String) :
    List String → Except FileFault ByteArray
  | [] => .error .directory
  | part :: rest =>
    if part == "" || part == "." then follow directory place rest
    else if part == ".." then
      if place.isEmpty then .error .missing else follow directory place.dropLast rest
    else
      let place := place ++ [part]
      match directory.bytes? place with
      | some bytes => if rest.isEmpty then .ok bytes else .error .notDirectory
      | none => if directory.isDirectory place then follow directory place rest else .error .missing

def files (directory : Directory) : Files := fun path =>
  if path.isEmpty || path.startsWith "/" then .error .missing
  else directory.follow [] (parts path) >>= Files.decode

end Directory

end CaseSynthesis
