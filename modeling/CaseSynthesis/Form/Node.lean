import CaseSynthesis.Json.Decode
import CaseSynthesis.Node

/-! The JSON form of nodes. -/

namespace CaseSynthesis
open Json

namespace ExprText

def toJson (expr : ExprText) : Json := .obj [("source", .str expr.source)]

def ofJson? (json : Json) : Option ExprText := do
  let fields ← json.record? ["source"]
  return ⟨← required? str? "source" fields⟩

end ExprText

namespace TypeName

def toJson (type : TypeName) : Json := .obj [("name", .str type.name)]

def ofJson? (json : Json) : Option TypeName := do
  let fields ← json.record? ["name"]
  return ⟨← required? str? "name" fields⟩

end TypeName

namespace Literal

def toJson : Literal → Json
  | str value => .obj [("kind", .str "str"), ("value", .str value)]
  | number spelling => .obj [("kind", .str "number"), ("value", .str spelling)]

def ofJson? (inTagged : Bool) (json : Json) : Option Literal := do
  let (kind, value) ← json.adjacent? inTagged "kind" "value"
  match kind with
  | "str" => return .str (← value.str?)
  | "number" => return .number (← value.str?)
  | _ => none

end Literal

namespace DeclKind

def toJson : DeclKind → Json
  | enum => .str "enum"
  | struct => .str "struct"
  | union => .str "union"
  | trait => .str "trait"
  | function => .str "function"
  | other name => .obj [("other", .str name)]

def ofJson? (inTagged : Bool) (json : Json) : Option DeclKind := do
  let (name, content) ← json.alternative?
  match name, content with
  | "other", some content => return .other (← content.str?)
  | "other", none => none
  | name, content =>
    if !isUnit inTagged content then none
    else match name with
      | "enum" => some .enum
      | "struct" => some .struct
      | "union" => some .union
      | "trait" => some .trait
      | "function" => some .function
      | _ => none

end DeclKind

namespace CaseElement

def toJson (element : CaseElement) : Json :=
  .obj [("name", .str element.name),
    ("raw_value", (element.rawValue.map Literal.toJson).getD .null),
    ("has_payload", .bool element.hasPayload)]

def rawValueOfJson? (json : Json) : Option (Option Literal) :=
  match json with
  | .null => some none
  | json => (Literal.ofJson? true json).map some

def ofJson? (json : Json) : Option CaseElement := do
  let fields ← json.record? ["name", "raw_value", "has_payload"]
  return {
    name := ← required? str? "name" fields
    rawValue := ← optional? rawValueOfJson? none "raw_value" fields
    hasPayload := ← optional? bool? false "has_payload" fields }

end CaseElement

namespace Member

def toJson : Member → Json
  | cases elements =>
    .obj [("member", .str "case"), ("elements", .arr (elements.map CaseElement.toJson))]
  | other source => .obj [("member", .str "other"), ("source", .str source)]

def ofJson? (json : Json) : Option Member := do
  let (name, content) ← json.tagged? "member"
  match name with
  | "case" =>
    let fields ← content.record? ["elements"]
    return .cases (← required? (list? CaseElement.ofJson?) "elements" fields)
  | "other" =>
    let fields ← content.record? ["source"]
    return .other (← required? str? "source" fields)
  | _ => none

end Member

namespace Decl

def fieldsJson (decl : Decl) : List (String × Json) :=
  [("kind", decl.kind.toJson), ("name", .str decl.name),
    ("inherited", .arr (decl.inherited.map TypeName.toJson)),
    ("members", .arr (decl.members.map Member.toJson))]

def toJson (decl : Decl) : Json := .obj decl.fieldsJson

def ofJson? (inTagged : Bool) (json : Json) : Option Decl := do
  let fields ← json.record? ["kind", "name", "inherited", "members"]
  return {
    kind := ← required? (DeclKind.ofJson? inTagged) "kind" fields
    name := ← required? str? "name" fields
    inherited := ← optional? (list? TypeName.ofJson?) [] "inherited" fields
    members := ← optional? (list? Member.ofJson?) [] "members" fields }

end Decl

namespace Invocation

def fieldsJson (invocation : Invocation) : List (String × Json) :=
  [("name", .str invocation.name),
    ("arguments", .arr (invocation.arguments.map ExprText.toJson))]

def ofJson? (json : Json) : Option Invocation := do
  let fields ← json.record? ["name", "arguments"]
  return {
    name := ← required? str? "name" fields
    arguments := ← required? (list? ExprText.ofJson?) "arguments" fields }

end Invocation

namespace Node

def toJson : Node → Json
  | expr text => .obj [("node", .str "expr"), ("source", .str text.source)]
  | decl declared => .obj (("node", .str "decl") :: declared.fieldsJson)
  | invocation call => .obj (("node", .str "invocation") :: call.fieldsJson)

def ofJson? (json : Json) : Option Node := do
  let (name, content) ← json.tagged? "node"
  match name with
  | "expr" => return .expr (← ExprText.ofJson? content)
  | "decl" => return .decl (← Decl.ofJson? true content)
  | "invocation" => return .invocation (← Invocation.ofJson? content)
  | _ => none

end Node

end CaseSynthesis
