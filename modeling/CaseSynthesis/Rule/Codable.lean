import CaseSynthesis.Rule.Case
import CaseSynthesis.Settings.Basic
import CaseSynthesis.Text.Blank
import CaseSynthesis.Text.Numeric

/-! The rule for enums with string raw values. It adds a fallback case, the raw value of a case and
the case of a raw value to the enum, and makes it decodable and encodable. Decoding and encoding go
by the name of a case and not by its raw value. -/

namespace CaseSynthesis.Codable

/-- The part of a text after the last double colon in it. The text is given last character first,
and `piece` holds what was passed of it. -/
def lastPiece (piece : List Char) : List Char → List Char
  | [] => piece
  | ':' :: ':' :: _ => piece
  | c :: rest => lastPiece (c :: piece) rest

def isLifetimeChar (c : Char) : Bool := Text.isAlphanumeric c || c == '_'

def withoutReference : List Char → List Char
  | '&' :: rest =>
    match Text.trimStart rest with
    | '\'' :: rest => Text.trimStart (rest.dropWhile isLifetimeChar)
    | rest => rest
  | text => text

/-- Whether a type is `String` or `str` under whatever path, or a reference to one. -/
def isStringType (type : TypeName) : Bool :=
  let text := withoutReference (Text.trim type.name.toList)
  let last := Text.trim (lastPiece [] text.reverse)
  last == "String".toList || last == "str".toList

def rawType (decl : Decl) : Except SynthesisError TypeName :=
  match decl.inherited with
  | [] => .error (.missingRawType decl.name)
  | type :: _ =>
    if isStringType type then .ok type else .error (.unsupportedRawType decl.name type.name)

/-- The raw value of a case is its explicit string or else its name. -/
def rawValue (case : Case) : Except SynthesisError String :=
  match case.rawValue with
  | none => .ok case.name
  | some (.str value) => .ok value
  | some literal => .error (.invalidRawValue case.name literal)

/-- The raw values of cases, no two of which may be equal. What was seen before is kept as pairs of
a raw value and the name of its case. -/
def rawValuesAfter (seen : List (String × String)) :
    List Case → Except SynthesisError (List String)
  | [] => .ok []
  | case :: rest => do
    let value ← rawValue case
    match seen.lookup value with
    | some first => throw (.duplicateRawValue case.name first value)
    | none =>
      let values ← rawValuesAfter ((value, case.name) :: seen) rest
      return value :: values

def rawValues (cases : List Case) : Except SynthesisError (List String) := rawValuesAfter [] cases

def parameter : String := "value"

def accessorName : String := "raw_value"

structure Members where
  fallback : String
  toRaw : Switch
  ofRaw : Switch
  deriving DecidableEq, Repr

def Members.declarations (members : Members) : List Declaration :=
  [.case members.fallback, .accessor ⟨accessorName, members.toRaw⟩,
    .initializer ⟨"from_raw_value", parameter, members.ofRaw⟩]

def members (settings : Settings) (node : Node) : Except SynthesisError Members := do
  let decl ← structural .codableEnum node.enum
  let cases ← structural .codableEnum decl.cases
  let _ ← rawType decl
  checkFallback settings.fallbackCase cases
  let values ← rawValues cases
  return {
    fallback := settings.fallbackCase
    toRaw := {
      subject := .selfValue
      arms := cases.zipWith (fun case value => ⟨.case case.name, .returnStr value⟩) values
      default := .returnStr fallbackText }
    ofRaw := {
      subject := .parameter parameter
      arms := cases.map fun case => ⟨.rawValueOf case.name, .assignCase case.name⟩
      default := .assignCase settings.fallbackCase } }

structure Extensions where
  decode : Switch
  encode : Switch
  deriving DecidableEq, Repr

def Extensions.declarations (target : TypeName) (extensions : Extensions) : List Declaration :=
  [.extension ⟨target, .decodable, extensions.decode⟩,
    .extension ⟨target, .encodable, extensions.encode⟩]

def extensions (settings : Settings) (node : Node) : Except SynthesisError Extensions := do
  let cases ← structural .codableEnum node.cases
  checkFallback settings.fallbackCase cases
  return {
    decode := nameLookup .decodedString settings.fallbackCase cases
    encode := {
      subject := .selfValue
      arms := cases.map fun case => ⟨.case case.name, .returnStr case.name⟩
      default := .returnStr fallbackText } }

end CaseSynthesis.Codable
