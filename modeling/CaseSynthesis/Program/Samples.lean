import CaseSynthesis.Program.Expansion
import CaseSynthesis.Rule.Enumeration

/-! A program with enums to try the rules on. -/

namespace CaseSynthesis

def Marked.enumeration? (settings : Settings) (marked : Marked) : Option Enumeration := do
  let rawType ← rawTypeOfArguments marked.arguments
  let decl := marked.item.toDecl (rawType.map Grammar.TypeExpr.toName)
  (Enumeration.ofDecl settings marked.rule decl).toOption

namespace Samples

def program : String :=
  "#[nullable_enum] enum Status \x7b Visitor, Pr \x7d\n" ++
  "#[nullable_enum] enum Token \x7b r#type, Ident \x7d\n" ++
  "#[codable_enum(String)] enum Event \x7b Opened, Pr = \"pull_request\" \x7d\n" ++
  "#[codable_enum(&'static str)] enum Odd \x7b r#match = \"\", Quote = \"a\\\"b\\\\c\\n\", " ++
  "Swap1 = \"Swap2\", Swap2 = \"Swap1\", Été = \"summer\" \x7d\n"

def enumeration? (name : String) : Option (Rule × Enumeration) := do
  let file ← (readProgram program).toOption
  let marked ← file.markedItems.find? fun marked => marked.item.declName == name
  return (marked.rule, ← marked.enumeration? {})

end Samples

end CaseSynthesis
