import CaseSynthesis.Form.Node
import CaseSynthesis.Form.Switch
import CaseSynthesis.Output

/-! The JSON form of expressions and declarations. -/

namespace CaseSynthesis
open Json

namespace Expression

mutual

def toJson : Expression → Json
  | tuple elements => .obj [("expr", .str "tuple"), ("elements", .arr (toJsonAll elements))]
  | embedded expr => .obj [("expr", .str "embedded"), ("source", .str expr.source)]
  | stringLiteral value => .obj [("expr", .str "string_literal"), ("value", .str value)]

def toJsonAll : List Expression → List Json
  | [] => []
  | expression :: rest => toJson expression :: toJsonAll rest

end

def ofJsonWithin? : Nat → Json → Option Expression
  | 0, _ => none
  | depth + 1, json => do
    let (name, content) ← json.tagged? "expr"
    match name with
    | "tuple" =>
      let fields ← content.record? ["elements"]
      return .tuple (← required? (list? (ofJsonWithin? depth)) "elements" fields)
    | "embedded" => return .embedded (← ExprText.ofJson? content)
    | "string_literal" =>
      let fields ← content.record? ["value"]
      return .stringLiteral (← required? str? "value" fields)
    | _ => none

def ofJson? (json : Json) : Option Expression := ofJsonWithin? json.depth json

end Expression

namespace Initializer

def fieldsJson (initializer : Initializer) : List (String × Json) :=
  [("name", .str initializer.name), ("parameter", .str initializer.parameter),
    ("body", initializer.body.toJson)]

def ofJson? (inTagged : Bool) (json : Json) : Option Initializer := do
  let fields ← json.record? ["name", "parameter", "body"]
  return {
    name := ← required? str? "name" fields
    parameter := ← required? str? "parameter" fields
    body := ← required? (Switch.ofJson? inTagged) "body" fields }

end Initializer

namespace Accessor

def fieldsJson (accessor : Accessor) : List (String × Json) :=
  [("name", .str accessor.name), ("body", accessor.body.toJson)]

def ofJson? (inTagged : Bool) (json : Json) : Option Accessor := do
  let fields ← json.record? ["name", "body"]
  return {
    name := ← required? str? "name" fields
    body := ← required? (Switch.ofJson? inTagged) "body" fields }

end Accessor

namespace Conformance

def toJson : Conformance → Json
  | decodable => .str "Decodable"
  | encodable => .str "Encodable"

def ofJson? (inTagged : Bool) (json : Json) : Option Conformance := do
  match ← json.unitName? inTagged with
  | "Decodable" => some .decodable
  | "Encodable" => some .encodable
  | _ => none

end Conformance

namespace Extension

def fieldsJson (extension : Extension) : List (String × Json) :=
  [("target", extension.target.toJson), ("conformance", extension.conformance.toJson),
    ("body", extension.body.toJson)]

def ofJson? (inTagged : Bool) (json : Json) : Option Extension := do
  let fields ← json.record? ["target", "conformance", "body"]
  return {
    target := ← required? TypeName.ofJson? "target" fields
    conformance := ← required? (Conformance.ofJson? inTagged) "conformance" fields
    body := ← required? (Switch.ofJson? inTagged) "body" fields }

end Extension

namespace Declaration

def toJson : Declaration → Json
  | case name => .obj [("decl", .str "case"), ("name", .str name)]
  | initializer built => .obj (("decl", .str "initializer") :: built.fieldsJson)
  | accessor built => .obj (("decl", .str "accessor") :: built.fieldsJson)
  | extension built => .obj (("decl", .str "extension") :: built.fieldsJson)

def ofJson? (json : Json) : Option Declaration := do
  let (name, content) ← json.tagged? "decl"
  match name with
  | "case" =>
    let fields ← content.record? ["name"]
    return .case (← required? str? "name" fields)
  | "initializer" => return .initializer (← Initializer.ofJson? true content)
  | "accessor" => return .accessor (← Accessor.ofJson? true content)
  | "extension" => return .extension (← Extension.ofJson? true content)
  | _ => none

end Declaration

end CaseSynthesis
