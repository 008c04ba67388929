import CaseSynthesis.Node
import CaseSynthesis.Text.Quoted

/-! The rules, where they may be applied, and why they may refuse. -/

namespace CaseSynthesis

inductive Site
  | expression
  | memberSynthesis
  | extensionSynthesis
  deriving DecidableEq, Repr

def Site.text : Site → String
  | expression => "an expression"
  | memberSynthesis => "a member-synthesis"
  | extensionSynthesis => "an extension-synthesis"

inductive Rule
  | stringify
  | nullableEnum
  | codableEnum
  deriving DecidableEq, Repr

namespace Rule

def label : Rule → String
  | stringify => "stringified"
  | nullableEnum => "nullable_enum"
  | codableEnum => "codable_enum"

def all : List Rule := [stringify, nullableEnum, codableEnum]

def ofLabel? (name : String) : Option Rule := all.find? fun rule => rule.label == name

def supports : Rule → Site → Bool
  | stringify, .expression => true
  | nullableEnum, .memberSynthesis => true
  | codableEnum, .memberSynthesis => true
  | codableEnum, .extensionSynthesis => true
  | _, _ => false

end Rule

inductive Mismatch
  | notAnEnum (name : String) (kind : DeclKind)
  | unexpectedNode (expected found : String)
  | casePayload (case : String)
  | duplicateCase (case : String)
  deriving DecidableEq, Repr

def Mismatch.message : Mismatch → String
  | notAnEnum name kind => "can only be applied to an enum, `" ++ name ++ "` is a " ++ kind.text
  | unexpectedNode expected found => "expected " ++ expected ++ ", found " ++ found
  | casePayload case =>
    "case `" ++ case ++ "` carries associated values, only unit cases are supported"
  | duplicateCase case => "case `" ++ case ++ "` is declared more than once"

def Literal.text : Literal → String
  | str value => Text.quoted value
  | number spelling => spelling

inductive SynthesisError
  | structural (rule : Rule) (cause : Mismatch)
  | missingRawType (name : String)
  | unsupportedRawType (name found : String)
  | invalidRawValue (case : String) (literal : Literal)
  | duplicateRawValue (case first value : String)
  | fallbackCollision (case : String)
  | unsupportedSite (rule : Rule) (site : Site)
  deriving DecidableEq, Repr

namespace SynthesisError

def message : SynthesisError → String
  | structural rule cause => "#[" ++ rule.label ++ "] " ++ cause.message
  | missingRawType name =>
    let label := Rule.codableEnum.label
    "#[" ++ label ++ "] requires `" ++ name ++ "` to declare a raw-value type, e.g. #[" ++ label ++
      "(String)]"
  | unsupportedRawType name found =>
    "#[" ++ Rule.codableEnum.label ++ "] only supports string raw values, `" ++ name ++
      "` declares `" ++ found ++ "`"
  | invalidRawValue case literal =>
    "case `" ++ case ++ "` has raw value " ++ literal.text ++ ", expected a string literal"
  | duplicateRawValue case first value =>
    "case `" ++ case ++ "` reuses raw value \"" ++ value ++ "\" of case `" ++ first ++ "`"
  | fallbackCollision case =>
    "case `" ++ case ++ "` collides with the synthesized fallback case"
  | unsupportedSite rule site =>
    "`" ++ rule.label ++ "` cannot expand at " ++ site.text ++ " site"

def case? : SynthesisError → Option String
  | structural _ (.casePayload case) => some case
  | structural _ (.duplicateCase case) => some case
  | invalidRawValue case _ => some case
  | duplicateRawValue case _ _ => some case
  | fallbackCollision case => some case
  | _ => none

end SynthesisError

end CaseSynthesis
