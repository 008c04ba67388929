import CaseSynthesis.Text.Numeric

/-! The settings of the synthesis, and which of them are usable. -/

namespace CaseSynthesis

structure Settings where
  fallbackCase : String := "Unknown"
  serdePath : String := "serde"
  deriving DecidableEq, Repr

inductive SettingsError
  | unreadable (path cause : String)
  | malformed
  | fallbackNotIdentifier (name : String)
  | fallbackReserved (name : String)
  | serdePathInvalid (path : String)
  deriving DecidableEq, Repr

namespace Settings

def isNameStart (c : Char) : Bool := Text.isAlphabetic c || c == '_'

def isNameChar (c : Char) : Bool := Text.isAlphanumeric c || c == '_'

/-- A letter or underscore followed by letters, digits and underscores, but no lone underscore. -/
def isName : List Char → Bool
  | [] => false
  | c :: rest => isNameStart c && !(c == '_' && rest.isEmpty) && rest.all isNameChar

def splitColons (piece : List Char) : List Char → List (List Char)
  | [] => [piece.reverse]
  | ':' :: ':' :: rest => piece.reverse :: splitColons [] rest
  | c :: rest => splitColons (c :: piece) rest

def withoutColons : List Char → List Char
  | ':' :: ':' :: rest => rest
  | text => text

/-- Keywords that cannot be escaped, so that no case can have them for a name. -/
def reservedNames : List String := ["self", "Self", "super", "crate"]

def validate (settings : Settings) : Except SettingsError Unit := do
  if !isName settings.fallbackCase.toList then
    throw (.fallbackNotIdentifier settings.fallbackCase)
  if settings.fallbackCase ∈ reservedNames then
    throw (.fallbackReserved settings.fallbackCase)
  if !(splitColons [] (withoutColons settings.serdePath.toList)).all isName then
    throw (.serdePathInvalid settings.serdePath)

end Settings

def SettingsError.message? : SettingsError → Option String
  | unreadable path cause => some ("I/O error: " ++ path ++ ": " ++ cause)
  | malformed => none
  | fallbackNotIdentifier name =>
    some ("validation error: fallback_case `" ++ name ++ "` is not a valid identifier")
  | fallbackReserved name =>
    some ("validation error: fallback_case `" ++ name ++ "` is a reserved keyword")
  | serdePathInvalid path =>
    some ("validation error: serde_path `" ++ path ++ "` is not a valid path")

end CaseSynthesis
