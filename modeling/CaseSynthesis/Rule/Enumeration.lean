import CaseSynthesis.Json.Basic
import CaseSynthesis.Rule.Simulation

/-! Enums with what a rule added to them, ready to be used. -/

namespace CaseSynthesis

structure Enumeration where
  cases : List String
  declarations : List Declaration
  deriving DecidableEq, Repr

namespace Enumeration

def ofDecl (settings : Settings) (rule : Rule) (decl : Decl) :
    Except SynthesisError Enumeration := do
  let declarations ← allDeclarations settings rule decl
  let cases ← ((Node.decl decl).cases).mapError (.structural rule)
  return ⟨cases.map Case.name ++ (Declarations.fallback? declarations).toList, declarations⟩

def call? (enumeration : Enumeration) (call : Call) (text : String) : Option String :=
  match Declarations.run? enumeration.declarations call text with
  | some (.ok branch) => some branch.text
  | _ => none

def init? (enumeration : Enumeration) : String → Option String := enumeration.call? .init

def rawValue? (enumeration : Enumeration) : String → Option String := enumeration.call? .rawValue

def decode? (enumeration : Enumeration) (json : Json) : Option String := do
  enumeration.call? .decode (← json.str?)

def encode? (enumeration : Enumeration) (case : String) : Option Json :=
  (enumeration.call? .encode case).map .str

end Enumeration

end CaseSynthesis
