import CaseSynthesis.Form.Output
import CaseSynthesis.Rule.Request

/-! The JSON form of requests, of what they yield, and of settings. -/

namespace CaseSynthesis
open Json

namespace Site

def toJson : Site → Json
  | expression => .str "expression"
  | memberSynthesis => .str "member_synthesis"
  | extensionSynthesis => .str "extension_synthesis"

def ofJson? (json : Json) : Option Site := do
  match ← json.unitName? false with
  | "expression" => some .expression
  | "member_synthesis" => some .memberSynthesis
  | "extension_synthesis" => some .extensionSynthesis
  | _ => none

end Site

namespace Rule

def toJson : Rule → Json
  | stringify => .str "stringify"
  | nullableEnum => .str "nullable-enum"
  | codableEnum => .str "codable-enum"

def ofJson? (json : Json) : Option Rule := do
  match ← json.unitName? false with
  | "stringify" => some .stringify
  | "nullable-enum" => some .nullableEnum
  | "codable-enum" => some .codableEnum
  | _ => none

end Rule

namespace Request

def toJson (request : Request) : Json :=
  .obj [("site", request.site.toJson), ("node", request.node.toJson),
    ("conformances", .arr (request.conformances.map TypeName.toJson))]

def ofJson? (json : Json) : Option Request := do
  let fields ← json.record? ["site", "node", "conformances"]
  return {
    site := ← required? Site.ofJson? "site" fields
    node := ← required? Node.ofJson? "node" fields
    conformances := ← optional? (list? TypeName.ofJson?) [] "conformances" fields }

end Request

namespace Expansion

def toJson : Expansion → Json
  | expression built => .obj [("kind", .str "expression"), ("output", built.toJson)]
  | declarations built =>
    .obj [("kind", .str "declarations"), ("output", .arr (built.map Declaration.toJson))]

def ofJson? (json : Json) : Option Expansion := do
  let (kind, output) ← json.adjacent? false "kind" "output"
  match kind with
  | "expression" => return .expression (← Expression.ofJson? output)
  | "declarations" => return .declarations (← output.list? Declaration.ofJson?)
  | _ => none

end Expansion

namespace Settings

def toJson (settings : Settings) : Json :=
  .obj [("codegen", .obj [("fallback_case", .str settings.fallbackCase),
    ("serde_path", .str settings.serdePath)])]

def codegenOfJson? (json : Json) : Option Settings := do
  let fields ← json.record? ["fallback_case", "serde_path"]
  let default : Settings := {}
  return {
    fallbackCase := ← optional? str? default.fallbackCase "fallback_case" fields
    serdePath := ← optional? str? default.serdePath "serde_path" fields }

def ofJson? (json : Json) : Option Settings := do
  let fields ← json.record? ["codegen"]
  optional? codegenOfJson? {} "codegen" fields

end Settings

end CaseSynthesis
