/-! Text files, as far as a program that only reads them can tell. -/

namespace CaseSynthesis

inductive FileFault
  | missing
  | notDirectory
  | directory
  | notText
  deriving DecidableEq, Repr

namespace FileFault

def message : FileFault → String
  | missing => "No such file or directory (os error 2)"
  | notDirectory => "Not a directory (os error 20)"
  | directory => "Is a directory (os error 21)"
  | notText => "stream did not contain valid UTF-8"

def isFile : FileFault → Bool
  | notText => true
  | _ => false

end FileFault

abbrev Files := String → Except FileFault String

namespace Files

def decode (bytes : ByteArray) : Except FileFault String :=
  match String.fromUTF8? bytes with
  | some text => .ok text
  | none => .error .notText

def isFile (files : Files) (path : String) : Bool :=
  match files path with
  | .ok _ => true
  | .error fault => fault.isFile

end Files

end CaseSynthesis
